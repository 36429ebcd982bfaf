import Mathlib.Data.List.Forall2
import SmartCard.Proofs.Management.Operations
import SmartCard.Proofs.Management.RegistryPages

/-!
# Listings in pages

The host asks for one page of a listing after the other, and the card decides when there are no
more. Over a channel without answer MACs what the card answers is what the host reads, so a listing
can be told from the answers alone:

* `ContentManager.announced` counts the pages that announce another one. The host asks once for
  each of them and once more, first for the first page and then always for the next one
  (`ContentManager.questions`);
* `ContentManager.listed` is what comes of the answers: the payloads of all pages, or the failure
  that ended the listing.

`ContentManager.exists_asked` proves this of every script of a card, whatever is in it, by induction
on the script. `ContentManager.paging` draws the consequences for a card that answers with pages.
The payloads are put together before anything is read from them, so the entries do not depend on
where one page ends and another begins. -/

namespace SmartCard.ContentManager

open SecureChannel

variable {subset : RegistrySubset} {format : RegistryFormat} {ch other : SecureChannel ScriptedCard}
  {host session : Session} {command : Command} {script : List (Except LinkError Bytes)}
  {pages : List Response} {last : Response}

/-! ### Answers -/

instance (status : StatusWord) : Decidable (EndsListing status) :=
  decidable_of_iff _ endsListing_iff.symm

/-- The number of answers, from the first one on, that announce another page. -/
def announced : List (Except LinkError Bytes) → Nat
  | [] => 0
  | entry :: script =>
    match entry.bind Response.decode with
    | .error _ => 0
    | .ok page => if page.status = .moreData then announced script + 1 else 0

/-- The data of a listing that is answered like this. -/
def listed : List (Except LinkError Bytes) → Except Error Bytes
  | [] => .error (.link .transmission)
  | entry :: script =>
    match entry.bind Response.decode with
    | .error e => .error (.link e)
    | .ok page =>
      if page.status = .moreData then (listed script).map (page.payload ++ ·)
      else if EndsListing page.status then .ok page.payload
      else .error (.cardStatus page.status)

theorem announced_le (script : List (Except LinkError Bytes)) :
    announced script ≤ script.length := by
  induction script with
  | nil => exact Nat.le_refl _
  | cons entry script ih =>
    unfold announced
    rw [List.length_cons]
    split
    · exact Nat.zero_le _
    · -- an answer that announces nothing ends the count
      split
      · exact Nat.succ_le_succ ih
      · exact Nat.zero_le _

/-- The questions for a listing: the first page, and `more` times the next one. -/
def questions (subset : RegistrySubset) (format : RegistryFormat) (more : Nat) : List Command :=
  Command.getStatusFirst subset.parameter format.parameter ::
    List.replicate more (Command.getStatusNext subset.parameter format.parameter)

/-- A command asks a question: it is the question as the keys of the host protect it, and its header
tells which one. -/
structure Asks (host : Session) (question command : Command) : Prop where
  protects : ∃ session : Session, session.keys = host.keys ∧ session.level = host.level ∧
    (session.wrap question).1 = .ok command
  ins_eq : command.ins = question.ins
  p1_eq : command.p1 = question.p1
  p2_eq : command.p2 = question.p2

/-- What the questions of a listing leave behind: the commands that asked them were sent, in this
order and nothing else, and an answer was taken for each. -/
structure Asked (host : Session) (ch after : SecureChannel ScriptedCard)
    (questions commands : List Command) : Prop where
  asks : List.Forall₂ (Asks host) questions commands
  sent_eq : after.link.sent = ch.link.sent ++ commands.map Command.encode
  script_eq : after.link.script = ch.link.script.drop commands.length

/-! ### Every script -/

/-- A channel that still is as `host` has opened it, but for the links between commands. -/
def Serves (host : Session) (ch : SecureChannel ScriptedCard) : Prop :=
  ∃ session, ch.Works session ∧ session.keys = host.keys ∧ session.level = host.level

/-- One page, and what the host does about it. -/
theorem exists_registryPages_eq (hserves : Serves host ch) (hplain : host.level.rMac = false)
    (subset : RegistrySubset) (format : RegistryFormat) (hlen : command.dataBytes.length ≤ 2)
    (read : Bytes) :
    ∃ wrapped next, Asks host command wrapped ∧ next.link = ch.link.asked wrapped ∧
      Serves host next ∧ registryPages subset format command read ch = match ch.link.answer with
        | .error e => (.error (.link e), { ch.close with link := ch.link.asked wrapped })
        | .ok page =>
          if page.status = .moreData then
            registryPages subset format (Command.getStatusNext subset.parameter format.parameter)
              (read ++ page.payload) next
          else if EndsListing page.status then (.ok (read ++ page.payload), next)
          else (.error (.cardStatus page.status), next) := by
  obtain ⟨session, hworks, hkeys, hlevel⟩ := hserves
  have hfits : command.dataBytes.length ≤ session.maxDataLength :=
    Nat.le_trans hlen (Nat.le_trans (by decide) session.le_maxDataLength)
  obtain ⟨wrapped, answered, hwrap, hvalid, hkeys', hlevel', hnext, hsent⟩ :=
    hworks.exists_transmit_eq (by rw [hlevel, hplain]) command hfits
  -- protection leaves the header that tells which question it is
  obtain ⟨hins, hp1, hp2⟩ := Session.header_of_wrap hwrap
  rw [ScriptedCard.transmit_eq hvalid] at hsent
  -- without answer MACs the session that took the answer serves whatever the answer was
  refine ⟨wrapped, { ch with link := ch.link.asked wrapped, session := some answered },
    ⟨⟨session, hkeys, hlevel, hwrap⟩, hins, hp1, hp2⟩, rfl,
    ⟨answered, hnext _, hkeys'.trans hkeys, hlevel'.trans hlevel⟩, ?_⟩
  rw [registryPages_eq, hsent]
  -- the channel has closed itself if there was no answer, and goes on in all other cases
  cases ch.link.answer with
  | error e => rfl
  | ok page => simp only [← endsListing_iff]

/-- A question has two bytes of data, which every command has room for. -/
theorem length_dataBytes_getStatusFirst (subset : RegistrySubset) (format : RegistryFormat) :
    (Command.getStatusFirst subset.parameter format.parameter).dataBytes.length ≤ 2 :=
  Nat.le_refl 2

theorem length_dataBytes_getStatusNext (subset : RegistrySubset) (format : RegistryFormat) :
    (Command.getStatusNext subset.parameter format.parameter).dataBytes.length ≤ 2 :=
  Nat.le_refl 2

/-- One question is asked by one command. -/
theorem Asked.single {after : SecureChannel ScriptedCard} {question wrapped : Command}
    (hasks : Asks host question wrapped) (hlink : after.link = ch.link.asked wrapped) :
    Asked host ch after [question] [wrapped] where
  asks := .cons hasks .nil
  sent_eq := by rw [hlink]; rfl
  script_eq := by rw [hlink]; exact List.drop_one.symm

/-- Further questions are asked after the first one. -/
theorem Asked.cons {next after : SecureChannel ScriptedCard} {question wrapped : Command}
    {questions commands : List Command} (hasks : Asks host question wrapped)
    (hlink : next.link = ch.link.asked wrapped) (h : Asked host next after questions commands) :
    Asked host ch after (question :: questions) (wrapped :: commands) where
  asks := .cons hasks h.asks
  sent_eq := by
    -- the first command was sent before all others
    have hsent : next.link.sent = ch.link.sent ++ [wrapped.encode] := by rw [hlink]; rfl
    rw [h.sent_eq, hsent, List.append_assoc]
    rfl
  script_eq := by
    have hscript : next.link.script = ch.link.script.drop 1 := by
      rw [hlink, List.drop_one]
      rfl
    rw [h.script_eq, hscript, List.drop_drop, List.length_cons, Nat.add_comm]

/-- **What comes of a listing is told by the script of the card**, and so is how often the host
asks. -/
theorem exists_asked (hserves : Serves host ch) (hplain : host.level.rMac = false)
    (subset : RegistrySubset) (format : RegistryFormat) (hlen : command.dataBytes.length ≤ 2)
    (read : Bytes) : ∃ commands,
      Asked host ch (registryPages subset format command read ch).2
          (command :: List.replicate (announced ch.link.script)
            (Command.getStatusNext subset.parameter format.parameter)) commands ∧
        (registryPages subset format command read ch).1 =
          (listed ch.link.script).map (read ++ ·) := by
  -- on the script, for the channel that each question is asked over
  induction hscript : ch.link.script generalizing ch command read with
  | nil =>
    obtain ⟨wrapped, next, hasks, -, -, hpages⟩ :=
      exists_registryPages_eq hserves hplain subset format hlen read
    -- the script is used up, so the question gets no answer
    have hanswer : ch.link.answer = .error .transmission := by
      unfold ScriptedCard.answer
      rw [hscript]
    simp only [hanswer] at hpages
    rw [hpages]
    exact ⟨[wrapped], .single hasks rfl, rfl⟩
  | cons entry script ih =>
    obtain ⟨wrapped, next, hasks, hlink, hnext, hpages⟩ :=
      exists_registryPages_eq hserves hplain subset format hlen read
    have hanswer : ch.link.answer = entry.bind Response.decode := by
      unfold ScriptedCard.answer
      rw [hscript]
    unfold announced listed
    cases hentry : entry.bind Response.decode with
    -- the card answered nothing that can be read, which ends the listing
    | error e =>
      simp only [hanswer, hentry] at hpages
      rw [hpages]
      exact ⟨[wrapped], .single hasks rfl, rfl⟩
    | ok page =>
      simp only [hanswer, hentry] at hpages
      by_cases hmore : page.status = .moreData
      · -- the rest of the listing is told by the rest of the script
        have htail : next.link.script = script := by
          rw [hlink]
          exact congrArg List.tail hscript
        obtain ⟨commands, hasked, houtcome⟩ := ih hnext
          (length_dataBytes_getStatusNext subset format) (read ++ page.payload) htail
        rw [if_pos hmore] at hpages
        rw [hpages, houtcome]
        simp only [if_pos hmore]
        refine ⟨wrapped :: commands, .cons hasks hlink hasked, ?_⟩
        -- this page goes in front of what the rest has come to
        cases listed script with
        | error e => rfl
        | ok data => exact congrArg Except.ok (List.append_assoc _ _ _)
      · rw [if_neg hmore] at hpages
        simp only [if_neg hmore]
        by_cases hends : EndsListing page.status
        · -- a status that ends the listing, or one that is a failure: there is no further question
          rw [if_pos hends] at hpages
          rw [hpages]
          simp only [if_pos hends]
          exact ⟨[wrapped], .single hasks hlink, rfl⟩
        · rw [if_neg hends] at hpages
          rw [hpages]
          simp only [if_neg hends]
          exact ⟨[wrapped], .single hasks hlink, rfl⟩

/-! ### Pages -/

/-- A card that answers with these pages, all but the last of which announce another one. -/
structure Listing (script : List (Except LinkError Bytes)) (pages : List Response)
    (last : Response) : Prop where
  announce : ∀ page ∈ pages, page.status = .moreData
  ends : last.status ≠ .moreData
  starts : (pages ++ [last]).map (fun page => .ok page.encode) <+: script

/-- The payloads of the pages, one after the other. -/
def contents (pages : List Response) (last : Response) : Bytes :=
  (pages ++ [last]).flatMap Response.payload

theorem announced_cons (page : Response) (script : List (Except LinkError Bytes)) :
    announced (.ok page.encode :: script) =
      if page.status = .moreData then announced script + 1 else 0 := by
  have hpage : (Except.ok page.encode).bind Response.decode = .ok page :=
    Response.decode_encode page
  rw [announced]
  simp only [hpage]

theorem listed_cons (page : Response) (script : List (Except LinkError Bytes)) :
    listed (.ok page.encode :: script) =
      if page.status = .moreData then (listed script).map (page.payload ++ ·)
      else if EndsListing page.status then .ok page.payload
      else .error (.cardStatus page.status) := by
  have hpage : (Except.ok page.encode).bind Response.decode = .ok page :=
    Response.decode_encode page
  rw [listed]
  simp only [hpage]

/-- The last page alone, or a page and a listing after it. -/
theorem Listing.cases (h : Listing script pages last) :
    (pages = [] ∧ ∃ rest, script = .ok last.encode :: rest) ∨
      ∃ page later rest, pages = page :: later ∧ script = .ok page.encode :: rest ∧
        page.status = .moreData ∧ Listing rest later last := by
  -- the script starts with the first page, and what is left starts with the others
  obtain ⟨hannounce, hends, rest, rfl⟩ := h
  cases pages with
  | nil => exact .inl ⟨rfl, rest, rfl⟩
  | cons page later =>
    obtain ⟨hpage, hlater⟩ := List.forall_mem_cons.1 hannounce
    exact .inr ⟨page, later, _, rfl, rfl, hpage, hlater, hends, List.prefix_append _ rest⟩

/-- **The pages that announce another are all but the last.** -/
theorem Listing.announced_eq (h : Listing script pages last) : announced script = pages.length := by
  induction pages generalizing script with
  | nil =>
    obtain ⟨-, rest, rfl⟩ | ⟨_, _, _, hcons, -⟩ := h.cases
    · rw [announced_cons, if_neg h.ends]
      rfl
    · cases hcons
  | cons page later ih =>
    obtain ⟨hnil, -⟩ | ⟨_, _, rest, hcons, rfl, hmore, hrest⟩ := h.cases
    · cases hnil
    · cases hcons
      -- this page counts as one, and the rest as many as it announces
      rw [announced_cons, if_pos hmore, ih hrest]
      rfl

/-- **The data of a listing are the payloads of its pages**, unless the last one is a failure. -/
theorem Listing.listed_eq (h : Listing script pages last) : listed script =
    if EndsListing last.status then .ok (contents pages last)
    else .error (.cardStatus last.status) := by
  induction pages generalizing script with
  | nil =>
    obtain ⟨-, rest, rfl⟩ | ⟨_, _, _, hcons, -⟩ := h.cases
    · have hcontents : contents [] last = last.payload := List.append_nil _
      -- the last page announces nothing, so its payload is all there is
      rw [listed_cons, if_neg h.ends, hcontents]
    · cases hcons
  | cons page later ih =>
    obtain ⟨hnil, -⟩ | ⟨_, _, rest, hcons, rfl, hmore, hrest⟩ := h.cases
    · cases hnil
    · cases hcons
      rw [listed_cons, if_pos hmore, ih hrest]
      split
      · rfl
      · rfl

/-- An established channel over which answers come as they are: what it is, and the session that it
protects the next command with. -/
structure PlainAnswers (ch : SecureChannel ScriptedCard) (host : Session) : Prop where
  reachable : Reachable ch
  established : ch.state = .established
  current : ch.session = some host
  plain : host.level.rMac = false

theorem PlainAnswers.serves (h : PlainAnswers ch host) : Serves host ch := by
  obtain ⟨session, hworks⟩ := h.reachable.exists_works h.established
  -- the session that the channel works with is the one it has
  obtain rfl : session = host := Option.some.inj (hworks.current.symm.trans h.current)
  exact ⟨session, hworks, rfl, rfl⟩

/-- **Reading a listing** asks for its pages and comes to what the script tells. -/
theorem exists_asked_registryData (h : PlainAnswers ch host) (subset : RegistrySubset)
    (format : RegistryFormat) : ∃ commands,
      Asked host ch (ExceptT.run (registryData subset format) ch).2
          (questions subset format (announced ch.link.script)) commands ∧
        (ExceptT.run (registryData subset format) ch).1 = listed ch.link.script := by
  obtain ⟨commands, hasked, houtcome⟩ := exists_asked h.serves h.plain subset format
    (length_dataBytes_getStatusFirst subset format) []
  refine ⟨commands, hasked, ?_⟩
  -- nothing was read before the first page
  rw [registryData_eq, houtcome]
  cases listed ch.link.script with
  | error e => rfl
  | ok data => rfl

theorem run_registryData (h : PlainAnswers ch host) :
    (ExceptT.run (registryData subset format) ch).1 = listed ch.link.script := by
  obtain ⟨-, -, houtcome⟩ := exists_asked_registryData h subset format
  exact houtcome

/-- Entries are read from the data, and the card is not asked again. -/
theorem run_registry (ch : SecureChannel ScriptedCard) :
    ExceptT.run (registry subset format) ch =
      ((ExceptT.run (registryData subset format) ch).1 >>= RegistryEntry.parse subset format,
        (ExceptT.run (registryData subset format) ch).2) :=
  ChannelM.run_bind_liftM _ _ ch

/-- **What reading a listing over a channel without answer MACs does.** -/
structure Paging (subset : RegistrySubset) (format : RegistryFormat) (host : Session)
    (ch : SecureChannel ScriptedCard) : Prop where
  /-- Whatever the card answers, it is asked once more than pages have announced another, and every
  question but the first is for the next page. -/
  asked : announced ch.link.script ≤ ch.link.script.length ∧ ∃ commands,
    Asked host ch (ExceptT.run (registryData subset format) ch).2
        (questions subset format (announced ch.link.script)) commands ∧
      Asked host ch (ExceptT.run (registry subset format) ch).2
        (questions subset format (announced ch.link.script)) commands
  /-- Pages up to one that ends the listing are put together, and entries are read from the whole.
  -/
  complete : ∀ pages last, Listing ch.link.script pages last → EndsListing last.status →
    announced ch.link.script = pages.length ∧
      (ExceptT.run (registryData subset format) ch).1 = .ok (contents pages last) ∧
      (ExceptT.run (registry subset format) ch).1 =
        RegistryEntry.parse subset format (contents pages last)
  /-- Any other status is the error, and no data are returned. -/
  refused : ∀ pages last, Listing ch.link.script pages last → ¬EndsListing last.status →
    announced ch.link.script = pages.length ∧
      (ExceptT.run (registryData subset format) ch).1 = .error (.cardStatus last.status) ∧
      (ExceptT.run (registry subset format) ch).1 = .error (.cardStatus last.status)
  /-- The same data in other pages, from any card over any such channel, give the same entries or
  the same error. -/
  resplit : ∀ other session, PlainAnswers other session → ∀ pages last pages' last',
    Listing ch.link.script pages last → EndsListing last.status →
    Listing other.link.script pages' last' → EndsListing last'.status →
    contents pages last = contents pages' last' →
    (ExceptT.run (registry subset format) ch).1 = (ExceptT.run (registry subset format) other).1

/-- Entries are read from all that complete pages contain. -/
theorem run_registry_of_listing (h : PlainAnswers ch host)
    (hlisting : Listing ch.link.script pages last) (hends : EndsListing last.status) :
    (ExceptT.run (registry subset format) ch).1 =
      RegistryEntry.parse subset format (contents pages last) := by
  rw [run_registry, run_registryData h, hlisting.listed_eq, if_pos hends]
  rfl

/-- **Pages do not show in what is read.** Over every established channel without answer MACs, for
every part of the registry in both formats and whatever is in the script of the card, the laws of
`Paging` hold. -/
theorem paging (h : PlainAnswers ch host) (subset : RegistrySubset) (format : RegistryFormat) :
    Paging subset format host ch where
  asked := by
    obtain ⟨commands, hasked, -⟩ := exists_asked_registryData h subset format
    refine ⟨announced_le _, commands, hasked, ?_⟩
    -- entries are read from the data, and that sends nothing
    rw [run_registry]
    exact hasked
  complete := by
    intro pages last hlisting hends
    refine ⟨hlisting.announced_eq, ?_, run_registry_of_listing h hlisting hends⟩
    rw [run_registryData h, hlisting.listed_eq, if_pos hends]
  refused := by
    intro pages last hlisting hends
    have hdata : (ExceptT.run (registryData subset format) ch).1 =
        .error (.cardStatus last.status) := by
      rw [run_registryData h, hlisting.listed_eq, if_neg hends]
    refine ⟨hlisting.announced_eq, hdata, ?_⟩
    rw [run_registry, hdata]
    rfl
  resplit := by
    intro other session hother pages last pages' last' hlisting hends hlisting' hends' hsame
    -- the entries are a function of the contents, which are the same
    rw [run_registry_of_listing h hlisting hends, run_registry_of_listing hother hlisting' hends',
      hsame]

/-- The recorded channel, with any card in place of its own. -/
theorem exists_plainAnswers (card : ScriptedCard) : ∃ ch host, PlainAnswers ch host ∧
    ch.link = card := by
  let recorded := ScriptedCard.ofAnswers
    ([recordedAnswer, .statusOnly .success].map Response.encode)
  have hgives : CardLink.Gives recorded [recordedAnswer, .statusOnly .success] :=
    ScriptedCard.gives rfl
  obtain ⟨ch, first, proof, host, hopen, -, hauth, hworks, -⟩ :=
    exists_opened_recorded recorded hgives (fun first _ => first.allows_mac)
  have hreachable := (Reachable.new recorded Scp03Card.recordedKeys _).openWith hopen
  have hlevel : host.level = .mac := Session.level_of_authenticate hauth
  -- what was reached over one card is reached over any other in its place
  exact ⟨{ ch with link := card }, host,
    ⟨hreachable.relink card, hworks.established, hworks.current, by rw [hlevel]; rfl⟩, rfl⟩

/-- An entry in three pages. -/
def threePages : List Response :=
  [⟨[0xE3, 0x07, 0x4F], .moreData⟩, ⟨[0x05, 0xA0, 0x00], .moreData⟩,
    ⟨[0x00, 0x00, 0x62], .success⟩]

/-- The same entry in one page, after which the card has nothing more. -/
def onePage : List Response :=
  [⟨[0xE3, 0x07, 0x4F, 0x05, 0xA0, 0x00, 0x00, 0x00, 0x62], .moreData⟩,
    .statusOnly .referencedDataNotFound]

/-- The entry is read from either card. -/
theorem paging_recorded : ∃ ch host other session, PlainAnswers ch host ∧
    PlainAnswers other session ∧
    ch.link = ScriptedCard.ofAnswers (threePages.map Response.encode) ∧
    other.link = ScriptedCard.ofAnswers (onePage.map Response.encode) ∧
    Paging .applications .tlv host ch ∧
    (ExceptT.run (registry .applications .tlv) ch).1 =
      .ok [{ aid := [0xA0, 0x00, 0x00, 0x00, 0x62] }] ∧
    (ExceptT.run (registry .applications .tlv) other).1 =
      .ok [{ aid := [0xA0, 0x00, 0x00, 0x00, 0x62] }] := by
  obtain ⟨ch, host, hplain, hlink⟩ :=
    exists_plainAnswers (ScriptedCard.ofAnswers (threePages.map Response.encode))
  obtain ⟨other, session, hplain', hlink'⟩ :=
    exists_plainAnswers (ScriptedCard.ofAnswers (onePage.map Response.encode))
  have hpaging := paging hplain .applications .tlv
  have hthree : Listing ch.link.script (threePages.take 2) ⟨[0x00, 0x00, 0x62], .success⟩ := by
    rw [hlink]
    exact ⟨by decide, by decide, List.prefix_refl _⟩
  have hone : Listing other.link.script (onePage.take 1) (.statusOnly .referencedDataNotFound) := by
    rw [hlink']
    exact ⟨by decide, by decide, List.prefix_refl _⟩
  have hparse : RegistryEntry.parse .applications .tlv
      [0xE3, 0x07, 0x4F, 0x05, 0xA0, 0x00, 0x00, 0x00, 0x62] =
        .ok [{ aid := [0xA0, 0x00, 0x00, 0x00, 0x62] }] := by
    have hread : Ber.readAll [0xE3, 0x07, 0x4F, 0x05, 0xA0, 0x00, 0x00, 0x00, 0x62] =
        .ok [.constructed [0xE3] [.primitive [0x4F] [0xA0, 0x00, 0x00, 0x00, 0x62]]] := by
      cbv
    change (Ber.readAll _).mapError _ >>= _ = _
    rw [hread]
    -- the data are one object of BER-TLV, with one field in it
    rfl
  have hentries : (ExceptT.run (registry .applications .tlv) ch).1 =
      .ok [{ aid := [0xA0, 0x00, 0x00, 0x00, 0x62] }] :=
    (hpaging.complete _ _ hthree (.inl rfl)).2.2.trans hparse
  have hsame := hpaging.resplit other session hplain' _ _ _ _ hthree (.inl rfl) hone
    (.inr (.inr rfl)) rfl
  exact ⟨ch, host, other, session, hplain, hplain', hlink, hlink', hpaging, hentries,
    hsame.symm.trans hentries⟩

end SmartCard.ContentManager
