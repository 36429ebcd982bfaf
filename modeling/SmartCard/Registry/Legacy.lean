import SmartCard.Error
import SmartCard.Registry.Entry

/-!
# Registry data in the fixed layout

In the format of older cards, an entry is the identifier with its length, the life cycle state and
one byte of privileges, followed by the number of modules and the modules with their lengths when
modules were asked for. Entries follow each other without separators (`RegistryEntry.parseLegacy`);
data that ends inside an entry is refused as a whole. -/

namespace SmartCard.RegistryEntry

/-- The error of data that ends inside an entry. -/
def truncated {α : Type} : Except Error α := .error (.protocol .truncatedRegistry)

def takeByte : Bytes → Except Error (UInt8 × Bytes)
  | [] => truncated
  | b :: rest => .ok (b, rest)

/-- Takes a length byte and that many bytes from the front. -/
def takeField : Bytes → Except Error (Bytes × Bytes)
  | [] => truncated
  | length :: rest =>
    if (rest.take length.toNat).length < length.toNat then truncated
    else .ok (rest.take length.toNat, rest.drop length.toNat)

def takeFields : Nat → Bytes → Except Error (List Bytes × Bytes)
  | 0, s => .ok ([], s)
  | count + 1, s => do
    let (field, rest) ← takeField s
    let (fields, rest) ← takeFields count rest
    return (field :: fields, rest)

/-- Takes the modules of an entry, if entries have any. -/
def takeModules (withModules : Bool) (s : Bytes) : Except Error (List Bytes × Bytes) :=
  if withModules then do
    let (count, rest) ← takeByte s
    takeFields count.toNat rest
  else .ok ([], s)

def takeEntry (withModules : Bool) (s : Bytes) : Except Error (RegistryEntry × Bytes) := do
  let (aid, rest) ← takeField s
  let (lifeCycle, rest) ← takeByte rest
  let (privileges, rest) ← takeByte rest
  let (modules, rest) ← takeModules withModules rest
  return ({ aid, lifeCycle, privileges := [privileges], modules }, rest)

theorem length_of_takeByte {s rest : Bytes} {b : UInt8} (h : takeByte s = .ok (b, rest)) :
    rest.length < s.length := by
  cases s with
  | nil => simp [takeByte, truncated] at h
  | cons c s =>
    simp only [takeByte, Except.ok.injEq, Prod.mk.injEq] at h
    obtain ⟨-, rfl⟩ := h
    simp

theorem length_of_takeField {s field rest : Bytes} (h : takeField s = .ok (field, rest)) :
    rest.length < s.length := by
  cases s with
  | nil => simp [takeField, truncated] at h
  | cons c s =>
    simp only [takeField] at h
    split at h
    · simp [truncated] at h
    · simp only [Except.ok.injEq, Prod.mk.injEq] at h
      obtain ⟨-, rfl⟩ := h
      simp only [List.length_drop, List.length_cons]
      omega

theorem length_of_takeFields {count : Nat} {s rest : Bytes} {fields : List Bytes}
    (h : takeFields count s = .ok (fields, rest)) : rest.length ≤ s.length := by
  induction count generalizing s fields with
  | zero => simp [takeFields] at h; simp [h.2]
  | succ count ih =>
    simp only [takeFields, bind, Except.bind] at h
    cases hf : takeField s with
    | error e => simp [hf] at h
    | ok p =>
      obtain ⟨field, after⟩ := p
      cases hr : takeFields count after with
      | error e => simp [hf, hr] at h
      | ok q =>
        simp only [hf, hr, pure, Except.pure, Except.ok.injEq, Prod.mk.injEq] at h
        obtain ⟨-, rfl⟩ := h
        exact Nat.le_of_lt (Nat.lt_of_le_of_lt (ih hr) (length_of_takeField hf))

theorem length_of_takeModules {withModules : Bool} {s rest : Bytes} {modules : List Bytes}
    (h : takeModules withModules s = .ok (modules, rest)) : rest.length ≤ s.length := by
  cases withModules with
  | false => simp [takeModules] at h; simp [h.2]
  | true =>
    simp only [takeModules, if_true, bind, Except.bind] at h
    cases hb : takeByte s with
    | error e => simp [hb] at h
    | ok p =>
      simp only [hb] at h
      exact Nat.le_of_lt (Nat.lt_of_le_of_lt (length_of_takeFields h) (length_of_takeByte hb))

theorem length_of_takeEntry {withModules : Bool} {s rest : Bytes} {entry : RegistryEntry}
    (h : takeEntry withModules s = .ok (entry, rest)) : rest.length < s.length := by
  simp only [takeEntry, bind, Except.bind] at h
  cases hf : takeField s with
  | error e => simp [hf] at h
  | ok p =>
    cases hl : takeByte p.2 with
    | error e => simp [hf, hl] at h
    | ok q =>
      cases hp : takeByte q.2 with
      | error e => simp [hf, hl, hp] at h
      | ok r =>
        cases hm : takeModules withModules r.2 with
        | error e => simp [hf, hl, hp, hm] at h
        | ok m =>
          simp only [hf, hl, hp, hm, pure, Except.pure, Except.ok.injEq, Prod.mk.injEq] at h
          obtain ⟨-, rfl⟩ := h
          have h₁ := length_of_takeField hf
          have h₂ := length_of_takeByte hl
          have h₃ := length_of_takeByte hp
          have h₄ := length_of_takeModules hm
          omega

/-- Reads entries until nothing is left, after the entries already read, the last one first. -/
def parseLegacyAfter (entries : List RegistryEntry) (withModules : Bool) (s : Bytes) :
    Except Error (List RegistryEntry) :=
  if s.isEmpty then .ok entries.reverse
  else
    match h : takeEntry withModules s with
    | .error e => .error e
    | .ok (entry, rest) =>
      have := length_of_takeEntry h
      parseLegacyAfter (entry :: entries) withModules rest
termination_by s.length

def parseLegacy (withModules : Bool) (s : Bytes) : Except Error (List RegistryEntry) :=
  parseLegacyAfter [] withModules s

end SmartCard.RegistryEntry
