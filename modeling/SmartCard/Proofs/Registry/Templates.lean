import SmartCard.Platform.Vocabulary
import SmartCard.Proofs.Tlv.ShortestForm
import SmartCard.Registry.Template

/-!
# Templates and their reader

A template tells the fields of an entry by the values of its parts. What counts for a field are the
values with its tag in their order (`RegistryEntry.values`): the last one for most fields, and all
of them for the modules. `RegistryEntry.Describes` says which entry a template describes in this
way, and `RegistryEntry.ofParts_eq_ok_iff` that it is the one that is read. So neither the order of
the fields nor anything that stands between them has a say.

An entry is written as a template by one part for each field that it has, in any order
(`RegistryEntry.Arranges`). Templates that are written like this describe their entries
(`RegistryEntry.describes_of_arranges`), and are read back from data in its shortest form, whatever
else is in the data (`RegistryEntry.parseTlv_encodeAll`). -/

namespace SmartCard.RegistryEntry

variable {parts objects : List Ber.Object} {object : Ber.Object} {entry : RegistryEntry}
  {entries : List RegistryEntry} {tag s : Bytes} {e : Error}

/-! ### Fields -/

/-- The values with a tag, in their order. -/
def values (tag : Bytes) (parts : List Ber.Object) : List Bytes :=
  parts.filterMap fun object => if object.tag = tag then object.value? else none

theorem values_append (tag : Bytes) (parts more : List Ber.Object) :
    values tag (parts ++ more) = values tag parts ++ values tag more :=
  List.filterMap_append

/-- The draft after some parts: the last value counts, and modules add up. -/
def Draft.after (draft : Draft) (parts : List Ber.Object) : Draft where
  aid := (values [0x4F] parts).getLast?.or draft.aid
  fields :=
    { aid := draft.fields.aid
      lifeCycle := ((values Tag.lifeCycle parts).filterMap List.head?).getLast?.getD
        draft.fields.lifeCycle
      privileges := (values [0xC5] parts).getLast?.getD draft.fields.privileges
      loadFile := (values [0xC4] parts).getLast?.or draft.fields.loadFile
      modules := draft.fields.modules ++ values [0x84] parts
      version := (values [0xCE] parts).getLast?.or draft.fields.version
      securityDomain := (values [0xCC] parts).getLast?.or draft.fields.securityDomain }

theorem Draft.after_nil (draft : Draft) : draft.after [] = draft := by
  simp [after, values]

theorem Draft.after_append (draft : Draft) (parts more : List Ber.Object) :
    draft.after (parts ++ more) = (draft.after parts).after more := by
  simp [after, values_append, List.getLast?_append, Option.or_assoc, Option.getD_or]

/-- **One part changes the draft as its tag says**, unless it is a life cycle state without a
byte. -/
theorem Draft.take_eq (draft : Draft) (object : Ber.Object) : draft.take object =
    if [] ∈ values Tag.lifeCycle [object] then .error (.protocol .emptyLifeCycle)
    else .ok (draft.after [object]) := by
  cases object with
  -- what has objects inside has no value, and so no say
  | constructed tag parts => simp [take, Ber.Object.value?, values, after]
  | primitive tag value =>
    unfold take
    simp only [Ber.Object.value?, Ber.Object.tag]
    split
    -- only the state has a value that is refused
    case h_2 =>
      cases value <;> simp [values, after, Ber.Object.tag, Ber.Object.value?, Tag.lifeCycle]
    all_goals simp_all [values, after, Ber.Object.tag, Ber.Object.value?, Tag.lifeCycle]

/-- **Parts are taken one after the other**, unless there is a life cycle state without a byte. -/
theorem Draft.foldlM_take (draft : Draft) (parts : List Ber.Object) :
    parts.foldlM Draft.take draft =
      if [] ∈ values Tag.lifeCycle parts then .error (.protocol .emptyLifeCycle)
      else .ok (draft.after parts) := by
  -- on the parts, for any draft that they are taken into
  induction parts generalizing draft with
  | nil => rw [after_nil]; rfl
  | cons object parts ih =>
    have hvalues := values_append Tag.lifeCycle [object] parts
    have hafter := draft.after_append [object] parts
    -- the first part is a list of its own, so that the values of the two lists add up
    rw [List.singleton_append] at hvalues hafter
    rw [List.foldlM_cons, take_eq, hvalues, hafter]
    by_cases hstate : [] ∈ values Tag.lifeCycle [object]
    · -- a state without a byte stops the reader here, whatever follows
      rw [if_pos hstate, if_pos (List.mem_append_left _ hstate)]
      rfl
    · rw [if_neg hstate]
      show parts.foldlM Draft.take (draft.after [object]) = _
      simp only [ih, List.mem_append, hstate, false_or]

/-! ### Templates -/

/-- The template describes the entry. -/
structure Describes (parts : List Ber.Object) (entry : RegistryEntry) : Prop where
  aid : (values [0x4F] parts).getLast? = some entry.aid
  /-- Each state has a byte. -/
  states : [] ∉ values Tag.lifeCycle parts
  lifeCycle : ((values Tag.lifeCycle parts).filterMap List.head?).getLast?.getD 0 = entry.lifeCycle
  privileges : (values [0xC5] parts).getLast?.getD [] = entry.privileges
  loadFile : (values [0xC4] parts).getLast? = entry.loadFile
  modules : values [0x84] parts = entry.modules
  version : (values [0xCE] parts).getLast? = entry.version
  securityDomain : (values [0xCC] parts).getLast? = entry.securityDomain

/-- The template has what an entry cannot be without. -/
structure Suffices (parts : List Ber.Object) : Prop where
  aid : values [0x4F] parts ≠ []
  states : [] ∉ values Tag.lifeCycle parts

/-- **A template is read as the entry that it describes.** -/
theorem ofParts_eq_ok_iff : ofParts parts = .ok entry ↔ Describes parts entry := by
  unfold ofParts
  rw [Draft.foldlM_take, bind_eq_ok_iff]
  constructor
  · rintro ⟨draft, hdraft, hfinish⟩
    -- the draft is only finished when every state had its byte
    obtain ⟨hstates, hdraft⟩ := guard_eq_ok_iff.1 hdraft
    obtain rfl := Except.ok.inj hdraft
    unfold Draft.finish at hfinish
    split at hfinish
    · rename_i aid haid
      obtain rfl := Except.ok.inj hfinish
      exact ⟨(Option.or_none).symm.trans haid, hstates, rfl, rfl, (Option.or_none).symm, rfl,
        (Option.or_none).symm, (Option.or_none).symm⟩
    · cases hfinish
  · intro h
    -- the empty draft adds nothing, so what counts is what the template has
    have hdraft : Draft.after {} parts = ⟨some entry.aid, { entry with aid := [] }⟩ := by
      unfold Draft.after
      rw [h.aid, h.lifeCycle, h.privileges, h.loadFile, h.modules, h.version, h.securityDomain]
      simp only [Option.or_none, List.nil_append]
    refine ⟨_, guard_eq_ok_iff.2 ⟨h.states, rfl⟩, ?_⟩
    rw [hdraft]
    rfl

/-- **There is an entry to be read if the template has what it takes.** -/
theorem exists_ofParts_iff : (∃ entry, ofParts parts = .ok entry) ↔ Suffices parts := by
  simp only [ofParts_eq_ok_iff]
  constructor
  · rintro ⟨entry, h⟩
    refine ⟨fun hnone => ?_, h.states⟩
    have haid := h.aid
    rw [hnone] at haid
    cases haid
  · intro h
    obtain ⟨aid, haid⟩ := Option.ne_none_iff_exists'.1 (List.getLast?_eq_none_iff.not.2 h.aid)
    -- all other fields have a value to fall back on
    exact ⟨⟨aid, _, _, _, _, _, _⟩, haid, h.states, rfl, rfl, rfl, rfl, rfl, rfl⟩

/-- What is wrong with a template is a fault of the card. -/
theorem protocol_of_ofParts (h : ofParts parts = .error e) : ∃ fault, e = .protocol fault := by
  -- a part is refused for its state, and a whole template for its identifier
  rcases bind_eq_error_iff.1 h with h | ⟨draft, -, h⟩
  · rw [Draft.foldlM_take] at h
    split at h
    · exact ⟨_, (Except.error.inj h).symm⟩
    · cases h
  · unfold Draft.finish at h
    split at h
    · cases h
    · exact ⟨_, (Except.error.inj h).symm⟩

/-! ### Data -/

/-- Entries are read from the templates among the objects. -/
theorem parseTlv_eq_ok_iff : parseTlv s = .ok entries ↔ ∃ objects, Ber.readAll s = .ok objects ∧
    List.Forall₂ (fun object entry => Describes object.parts entry) (objects.filter isTemplate)
      entries := by
  unfold parseTlv
  rw [bind_eq_ok_iff]
  simp only [mapError_eq_ok_iff, mapM_eq_ok_iff, ofParts_eq_ok_iff]

/-- **Data that no entries are read from is a fault of the card.** -/
theorem protocol_of_parseTlv (h : parseTlv s = .error e) : ∃ fault, e = .protocol fault := by
  rcases bind_eq_error_iff.1 h with h | ⟨objects, -, h⟩
  · obtain ⟨fault, -, rfl⟩ := mapError_eq_error_iff.1 h
    exact ⟨_, rfl⟩
  · obtain ⟨-, object, -, -, -, hobject⟩ := mapM_eq_error_iff.1 h
    exact protocol_of_ofParts hobject

/-- If the objects are read, each of their templates has to have what it takes. -/
theorem suffices_of_parseTlv (hread : Ber.readAll s = .ok objects)
    (h : parseTlv s = .ok entries) (hobject : object ∈ objects)
    (htemplate : isTemplate object = true) : Suffices object.parts := by
  obtain ⟨found, hfound, hentries⟩ := bind_eq_ok_iff.1 h
  -- the objects that were read are those of the hypothesis
  obtain rfl := Except.ok.inj (hread.symm.trans (mapError_eq_ok_iff.1 hfound))
  obtain ⟨-, entry, -, -, hentry⟩ :=
    exists_of_mapM_eq_ok hentries (List.mem_filter.2 ⟨hobject, htemplate⟩)
  exact exists_ofParts_iff.1 ⟨entry, hentry⟩

/-! ### Templates that are written -/

/-- The tags of the fields. -/
def fieldTags : List Bytes :=
  [[0x4F], Tag.lifeCycle, [0xC5], [0xC4], [0x84], [0xCE], [0xCC]]

/-- The values of the fields that the entry has, with their tags. -/
def fieldValues (entry : RegistryEntry) : List (Bytes × List Bytes) :=
  [([0x4F], [entry.aid]), (Tag.lifeCycle, [[entry.lifeCycle]]), ([0xC5], [entry.privileges]),
    ([0xC4], entry.loadFile.toList), ([0x84], entry.modules), ([0xCE], entry.version.toList),
    ([0xCC], entry.securityDomain.toList)]

/-- One part for each field that the entry has. -/
def fieldParts (entry : RegistryEntry) : List Ber.Object :=
  entry.fieldValues.flatMap fun field => field.2.map (.primitive field.1)

/-- The parts are the fields of the entry in some order that leaves the modules in theirs, and any
objects with other tags between them. -/
structure Arranges (entry : RegistryEntry) (parts : List Ber.Object) : Prop where
  fields : (parts.filter (·.tag ∈ fieldTags)).Perm entry.fieldParts
  modules : values [0x84] parts = entry.modules

/-- Objects with other tags have no say in a field. -/
theorem values_filter (htag : tag ∈ fieldTags) (parts : List Ber.Object) :
    values tag (parts.filter (·.tag ∈ fieldTags)) = values tag parts := by
  unfold values
  rw [List.filterMap_filter]
  refine List.filterMap_congr fun object _ => ?_
  -- an object with the tag passes the filter, and any other has no value under it
  by_cases hobject : object.tag = tag
  · simp [hobject, htag]
  · simp [hobject]

theorem values_map (tag own : Bytes) (found : List Bytes) :
    values tag (found.map (.primitive own)) = if own = tag then found else [] := by
  unfold values
  rw [List.filterMap_map]
  by_cases htag : own = tag
  · simp [htag, Ber.Object.tag, Ber.Object.value?]
  · simp [htag, Ber.Object.tag]

/-- Each field has the tag of its own. -/
theorem values_fieldParts (entry : RegistryEntry) :
    ∀ field ∈ entry.fieldValues, values field.1 entry.fieldParts = field.2 := by
  -- the fields of another tag add nothing to the values of this one
  have hparts : ∀ tag, values tag entry.fieldParts =
      entry.fieldValues.flatMap fun field => if field.1 = tag then field.2 else [] := by
    intro tag
    unfold fieldParts values
    rw [List.filterMap_flatMap]
    exact List.flatMap_congr fun field _ => values_map tag field.1 field.2
  intro field hfield
  rw [hparts]
  revert field
  -- the seven tags differ from each other
  simp [fieldValues, Tag.lifeCycle]

theorem mem_fieldTags (entry : RegistryEntry) :
    ∀ field ∈ entry.fieldValues, field.1 ∈ fieldTags := by
  simp [fieldValues, fieldTags]

/-- A field that is there at most once is there in one order only. -/
theorem Arranges.values_eq (h : Arranges entry parts) {value : Option Bytes}
    (hvalue : (tag, value.toList) ∈ entry.fieldValues) : values tag parts = value.toList := by
  have hown : values tag entry.fieldParts = value.toList := entry.values_fieldParts _ hvalue
  have hperm : (values tag parts).Perm value.toList := by
    -- without the objects of other tags, the parts are a permutation of the fields
    rw [← values_filter (entry.mem_fieldTags _ hvalue), ← hown]
    exact h.fields.filterMap _
  -- a list of at most one value has one order only
  cases value with
  | none => exact List.perm_nil.1 hperm
  | some value => exact List.perm_singleton.1 hperm

theorem Arranges.getLast?_values (h : Arranges entry parts) {value : Option Bytes}
    (hvalue : (tag, value.toList) ∈ entry.fieldValues) : (values tag parts).getLast? = value := by
  rw [h.values_eq hvalue]
  cases value with
  | none => rfl
  | some value => rfl

/-- **A template describes the entry that it was written for.** -/
theorem describes_of_arranges (h : Arranges entry parts) : Describes parts entry := by
  have hstate : values Tag.lifeCycle parts = (some [entry.lifeCycle]).toList :=
    h.values_eq (by simp [fieldValues])
  have hprivileges : (values [0xC5] parts).getLast? = some entry.privileges :=
    h.getLast?_values (by simp [fieldValues])
  refine ⟨?aid, ?states, ?lifeCycle, ?privileges, ?loadFile, h.modules, ?version, ?domain⟩
  case aid => exact h.getLast?_values (by simp [fieldValues])
  case states => rw [hstate]; simp
  case lifeCycle => rw [hstate]; rfl
  case privileges => rw [hprivileges]; rfl
  case loadFile => exact h.getLast?_values (by simp [fieldValues])
  case version => exact h.getLast?_values (by simp [fieldValues])
  case domain => exact h.getLast?_values (by simp [fieldValues])

/-- **Entries are read back from the templates that were written for them.** -/
theorem parseTlv_encodeAll (hformed : ∀ object ∈ objects, object.WellFormed)
    (hentries : List.Forall₂ (fun object entry => Arranges entry object.parts)
      (objects.filter isTemplate) entries) : parseTlv (Ber.encodeAll objects) = .ok entries :=
  parseTlv_eq_ok_iff.2 ⟨objects, Ber.readAll_encodeAll hformed,
    hentries.imp fun _ _ => describes_of_arranges⟩

/-! ### Exact reading -/

/-- **What is made of data in templates.** -/
structure ReadsTemplates (s : Bytes) : Prop where
  /-- Entries are read exactly if the objects of the data, as the reader takes them, have templates
  for these entries, in this order. -/
  lossless : ∀ entries, parseTlv s = .ok entries ↔ ∃ objects,
    Ber.SpellsAll Ber.counted objects s ∧
      List.Forall₂ (fun object entry => Describes object.parts entry) (objects.filter isTemplate)
        entries
  /-- All other data is refused. -/
  refused : (¬∃ entries, parseTlv s = .ok entries) →
    ∃ fault, parseTlv s = .error (.protocol fault)
  /-- Data that is decoded is refused if it is not objects one after the other, or if one of its
  templates lacks something. -/
  lacking : Ber.Decodes s →
    (¬∃ objects, Ber.SpellsAll Ber.exact objects s ∧
      ∀ object ∈ objects, isTemplate object = true → Suffices object.parts) →
    ∃ fault, parseTlv s = .error (.protocol fault)

/-- **Data in templates is read exactly**, and entries that were written as templates are read
back. -/
theorem readsTemplates :
    (∀ objects entries, (∀ object ∈ objects, object.WellFormed) →
      List.Forall₂ (fun object entry => Arranges entry object.parts) (objects.filter isTemplate)
        entries →
      parseTlv (Ber.encodeAll objects) = .ok entries) ∧
    (∀ objects, (∀ object ∈ objects, object.WellFormed) →
      (∃ object ∈ objects, isTemplate object = true ∧ ¬Suffices object.parts) →
      ∃ fault, parseTlv (Ber.encodeAll objects) = .error (.protocol fault)) ∧
    ∀ s, ReadsTemplates s := by
  have hrefused : ∀ s, (¬∃ entries, parseTlv s = .ok entries) →
      ∃ fault, parseTlv s = .error (.protocol fault) := by
    intro s hnone
    cases hparse : parseTlv s with
    | ok entries => exact absurd ⟨entries, hparse⟩ hnone
    | error e =>
      obtain ⟨fault, rfl⟩ := protocol_of_parseTlv hparse
      exact ⟨fault, rfl⟩
  refine ⟨fun objects entries => parseTlv_encodeAll, ?short, fun s =>
    ⟨?lossless, hrefused s, ?lacking⟩⟩
  case short =>
    rintro objects hformed ⟨object, hobject, htemplate, hlacks⟩
    -- it is refused if no entries are read, so entries are taken to be read
    refine hrefused _ ?_
    rintro ⟨entries, hentries⟩
    exact hlacks (suffices_of_parseTlv (Ber.readAll_encodeAll hformed) hentries hobject htemplate)
  case lossless =>
    intro entries
    simp only [parseTlv_eq_ok_iff, Ber.readAll_eq_ok_iff]
  case lacking =>
    intro hdecodes hnone
    refine hrefused s ?_
    rintro ⟨entries, hentries⟩
    obtain ⟨objects, hread, -⟩ := parseTlv_eq_ok_iff.1 hentries
    -- the reader's objects are spelled exactly, as the data is decoded, and each template suffices
    refine hnone ⟨objects, hdecodes.spellsAll hread, fun object hobject htemplate => ?_⟩
    exact suffices_of_parseTlv hread hentries hobject htemplate

/-- An application, as a card lists it. -/
def application : RegistryEntry where
  aid := [0xA0, 0x00, 0x00, 0x00, 0x01, 0x01]
  lifeCycle := 0x07
  privileges := [0x80, 0x00, 0x00]
  loadFile := some [0xA0, 0x00, 0x00, 0x00, 0x01]
  securityDomain := some [0xA0, 0x00, 0x00, 0x01, 0x51]

/-- A load file with two modules. -/
def package : RegistryEntry where
  aid := [0xA0, 0x00, 0x00, 0x00, 0x01]
  lifeCycle := 0x01
  privileges := []
  modules := [[0xA0, 0x00, 0x00, 0x00, 0x01, 0x01], [0xA0, 0x00, 0x00, 0x00, 0x01, 0x02]]
  version := some [0x01, 0x02]

/-- Objects with templates for the two entries. Each template has its fields in an order of its own,
and objects that are no fields stand in the templates and between them. -/
def templates : List Ber.Object :=
  [.primitive [0x80] [0x4F],
    .constructed [0xE3]
      [.primitive [0xCC] [0xA0, 0x00, 0x00, 0x01, 0x51],
        .primitive [0xC4] [0xA0, 0x00, 0x00, 0x00, 0x01],
        .constructed [0x7F, 0x21] [.primitive [0x4F] [0x00]], .primitive [0xC5] [0x80, 0x00, 0x00],
        .primitive Tag.lifeCycle [0x07], .primitive [0x4F] [0xA0, 0x00, 0x00, 0x00, 0x01, 0x01]],
    .constructed [0x61] [.primitive [0x4F] []],
    .constructed [0xE2]
      [.primitive [0x84] [0xA0, 0x00, 0x00, 0x00, 0x01, 0x01],
        .primitive [0x84] [0xA0, 0x00, 0x00, 0x00, 0x01, 0x02], .primitive [0xCE] [0x01, 0x02],
        .primitive [0x80] [], .primitive [0x4F] [0xA0, 0x00, 0x00, 0x00, 0x01],
        .primitive Tag.lifeCycle [0x01], .primitive [0xC5] []]]

/-- The application and its load file are read back. A template without an identifier is refused,
and so are one with an empty state and one that is cut off. The last one is decoded up to the cut,
also after the other two. -/
theorem readsTemplates_application :
    parseTlv (Ber.encodeAll templates) = .ok [application, package] ∧
    (∃ fault, parseTlv (Ber.encodeAll [.constructed [0xE3] [.primitive Tag.lifeCycle [0x07]]]) =
      .error (.protocol fault)) ∧
    (∃ fault, parseTlv [0xE3, 0x06, 0x4F, 0x01, 0xA0, 0x9F, 0x70, 0x00] =
      .error (.protocol fault)) ∧
    (∃ fault, parseTlv [0xE3, 0x06, 0x4F, 0x01, 0xA0] = .error (.protocol fault)) ∧
    Ber.Decodes (Ber.encodeAll templates ++ [0xE3, 0x06, 0x4F, 0x01, 0xA0]) := by
  obtain ⟨recovers, short, exact⟩ := readsTemplates
  have happlication : application.Arranges [.primitive [0xCC] [0xA0, 0x00, 0x00, 0x01, 0x51],
      .primitive [0xC4] [0xA0, 0x00, 0x00, 0x00, 0x01],
      .constructed [0x7F, 0x21] [.primitive [0x4F] [0x00]], .primitive [0xC5] [0x80, 0x00, 0x00],
      .primitive Tag.lifeCycle [0x07], .primitive [0x4F] [0xA0, 0x00, 0x00, 0x00, 0x01, 0x01]] :=
    ⟨List.reverse_perm application.fieldParts, rfl⟩
  have hpackage : package.Arranges [.primitive [0x84] [0xA0, 0x00, 0x00, 0x00, 0x01, 0x01],
      .primitive [0x84] [0xA0, 0x00, 0x00, 0x00, 0x01, 0x02], .primitive [0xCE] [0x01, 0x02],
      .primitive [0x80] [], .primitive [0x4F] [0xA0, 0x00, 0x00, 0x00, 0x01],
      .primitive Tag.lifeCycle [0x01], .primitive [0xC5] []] :=
    ⟨@List.perm_append_comm _ [_, _, _] [_, _, _], rfl⟩
  have hempty : parseTlv [0xE3, 0x06, 0x4F, 0x01, 0xA0, 0x9F, 0x70, 0x00] =
      .error (.protocol .emptyLifeCycle) := by cbv
  have hcut : Ber.read [0xE3, 0x06, 0x4F, 0x01, 0xA0] = .error .truncated := by cbv
  have hheader : Ber.readHeader [0xE3, 0x06, 0x4F, 0x01, 0xA0] =
      .ok ⟨[0xE3], 6, [0x4F, 0x01, 0xA0]⟩ := by cbv
  refine ⟨recovers _ _ (by decide) (.cons happlication (.cons hpackage .nil)),
    short _ (by decide) ⟨_, List.mem_singleton_self _, rfl, fun h => h.aid (by decide)⟩,
    (exact _).refused ?_, (exact _).lacking (.refused hcut) ?_,
    Ber.decodes_encodeAll_append (by decide) (.refused hcut)⟩
  · rintro ⟨entries, hentries⟩
    rw [hempty] at hentries
    cases hentries
  · rintro ⟨objects, hobjects, -⟩
    exact Ber.not_spellsAll_exact hheader (by decide) hobjects

end SmartCard.RegistryEntry
