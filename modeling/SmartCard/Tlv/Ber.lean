import SmartCard.Bytes.BigEndian
import SmartCard.Tlv.Fault

/-!
# BER-TLV

BER-TLV objects (ISO/IEC 7816-4) have a tag of one to three bytes, a length of one to five bytes,
and either a value or further objects inside (`Ber.Object`).

* `Ber.readTag` and `Ber.readLength` read the header of an object;
* `Ber.read` reads one object from the front of a byte string and returns what is left;
* `Ber.readAll` reads objects until nothing is left.

A constructed object is read by the sizes of its parts and not by cutting its contents out first:
parts are read while their sizes add up to less than the announced length, and the sum must then be
exactly that length. Sizes are those of the shortest encoding (`Ber.Object.size`), whatever encoding
a part arrived in.

`Ber.encodeLength` writes the length field of a load file.
-/

namespace SmartCard.Ber

/-- One object. -/
inductive Object
  | primitive (tag value : Bytes)
  /-- An object with objects inside. -/
  | constructed (tag : Bytes) (parts : List Object)

def Object.tag : Object → Bytes
  | primitive tag _ => tag
  | constructed tag _ => tag

def Object.value? : Object → Option Bytes
  | primitive _ value => some value
  | constructed _ _ => none

/-- The objects inside an object; there are none inside a value. -/
def Object.parts : Object → List Object
  | primitive _ _ => []
  | constructed _ parts => parts

/-! ### Sizes -/

/-- The number of bytes of the shortest length field for `n`. -/
def lengthSize (n : Nat) : Nat :=
  if n < 0x80 then 1
  else if n < 0x100 then 2
  else if n < 0x10000 then 3
  else if n < 0x1000000 then 4
  else 5

mutual

/-- The number of bytes of an object in its shortest encoding. -/
def Object.size : Object → Nat
  | .primitive tag value => tag.length + lengthSize value.length + value.length
  | .constructed tag parts => tag.length + lengthSize (sizeAll parts) + sizeAll parts

/-- The number of bytes of objects one after the other. -/
def sizeAll : List Object → Nat
  | [] => 0
  | object :: rest => object.size + sizeAll rest

end

/-! ### Length fields -/

/-- A length field with at most three length bytes; of a longer length only the last three bytes are
written. -/
def encodeLength (n : Nat) : Bytes :=
  if n < 0x80 then [n.toUInt8]
  else if n < 0x100 then [0x81, n.toUInt8]
  else if n < 0x10000 then [0x82, (n / 0x100).toUInt8, n.toUInt8]
  else [0x83, (n / 0x10000).toUInt8, (n / 0x100).toUInt8, n.toUInt8]

/-- Reads a length field: one byte below `80`, or the number of length bytes and the bytes. There
may be at most four of them. -/
def readLength : Bytes → Except TlvFault (Nat × Bytes)
  | [] => .error .truncated
  | first :: rest =>
    if first < 0x80 then .ok (first.toNat, rest)
    else
      let count := (first &&& 0x7F).toNat
      if 4 < count then .error .invalidLength
      else if (rest.take count).length < count then .error .truncated
      else .ok (BigEndian.toNat (rest.take count), rest.drop count)

/-! ### Tags -/

/-- Whether a first tag byte announces that the tag goes on. -/
def tagContinues (first : UInt8) : Bool := first &&& 0x1F == 0x1F

/-- Whether a tag marks an object with objects inside. -/
def isConstructed (tag : Bytes) : Bool := tag.headD 0 &&& 0x20 != 0

/-- Reads the bytes of a tag: after a first byte whose low five bits are all set, bytes up to the
first one below `80`. -/
def readTagBytes : Bytes → Except TlvFault (Bytes × Bytes)
  | [] => .error .truncated
  | first :: rest =>
    if tagContinues first then
      -- Every byte but the last one has its top bit set.
      match rest.dropWhile (0x80 ≤ ·) with
      | [] => .error .truncated
      | last :: after => .ok (first :: rest.takeWhile (0x80 ≤ ·) ++ [last], after)
    else .ok ([first], rest)

/-- Reads a tag. The tag `00` is none, and tags of more than three bytes are reserved. -/
def readTag (s : Bytes) : Except TlvFault (Bytes × Bytes) :=
  match readTagBytes s with
  | .error fault => .error fault
  | .ok (tag, rest) =>
    if tag = [0x00] then .error .invalidTag
    else if 3 < tag.length then .error .reservedTag
    else .ok (tag, rest)

theorem length_of_readLength {s rest : Bytes} {n : Nat} (h : readLength s = .ok (n, rest)) :
    rest.length < s.length := by
  revert h
  fun_cases readLength s with
  | case1 => simp
  | case2 first more _ => simp; rintro - rfl; omega
  | case3 => simp
  | case4 => simp
  | case5 first more _ count _ _ =>
    simp only [Except.ok.injEq, Prod.mk.injEq, and_imp, List.length_cons]
    rintro - rfl
    simp only [List.length_drop]
    omega

theorem length_of_readTag {s tag rest : Bytes} (h : readTag s = .ok (tag, rest)) :
    rest.length < s.length := by
  have key : ∀ {s tag rest : Bytes}, readTagBytes s = .ok (tag, rest) →
      rest.length < s.length := by
    intro s tag rest h
    unfold readTagBytes at h
    split at h
    · simp at h
    · rename_i first more
      split at h
      · split at h
        · simp at h
        · rename_i last after hdrop
          simp only [Except.ok.injEq, Prod.mk.injEq] at h
          obtain ⟨-, rfl⟩ := h
          have hle :=
            (List.dropWhile_sublist (fun b : UInt8 => decide (0x80 ≤ b)) (l := more)).length_le
          rw [hdrop] at hle
          simp only [List.length_cons] at hle ⊢
          omega
      · simp only [Except.ok.injEq, Prod.mk.injEq] at h
        obtain ⟨-, rfl⟩ := h
        simp
  unfold readTag at h
  split at h
  · simp at h
  · rename_i hbytes
    split at h
    · simp at h
    · split at h
      · simp at h
      · simp only [Except.ok.injEq, Prod.mk.injEq] at h
        obtain ⟨rfl, rfl⟩ := h
        exact key hbytes

/-! ### Objects -/

/-- Tag and length of an object, and what follows them. -/
structure Header where
  tag : Bytes
  length : Nat
  rest : Bytes

def readHeader (s : Bytes) : Except TlvFault Header := do
  let (tag, afterTag) ← readTag s
  let (length, rest) ← readLength afterTag
  return ⟨tag, length, rest⟩

theorem length_of_readHeader {s : Bytes} {h : Header} (hs : readHeader s = .ok h) :
    h.rest.length < s.length := by
  unfold readHeader at hs
  cases htag : readTag s with
  | error fault => simp [htag, bind, Except.bind] at hs
  | ok p =>
    obtain ⟨tag, after⟩ := p
    cases hlen : readLength after with
    | error fault => simp [htag, hlen, bind, Except.bind] at hs
    | ok q =>
      obtain ⟨n, rest⟩ := q
      simp only [htag, hlen, bind, Except.bind, pure, Except.pure, Except.ok.injEq] at hs
      subst hs
      exact Nat.lt_trans (length_of_readLength hlen) (length_of_readTag htag)

/-- Something read from the front of a byte string, with a rest that is shorter than `bound`. -/
structure Reading (α : Type) (bound : Nat) where
  value : α
  rest : Bytes
  /-- Reading goes forward. -/
  shorter : rest.length < bound

mutual

def readObject (s : Bytes) : Except TlvFault (Reading Object s.length) :=
  match hs : readHeader s with
  | .error fault => .error fault
  | .ok header =>
    have := length_of_readHeader hs
    if isConstructed header.tag then
      -- The parts are read from all that follows; the announced length only says when to stop.
      match readParts s.length header.length 0 [] header.rest this with
      | .error fault => .error fault
      | .ok ⟨parts, rest, shorter⟩ => .ok ⟨.constructed header.tag parts, rest, shorter⟩
    else if (header.rest.take header.length).length < header.length then .error .truncated
    else
      .ok ⟨.primitive header.tag (header.rest.take header.length), header.rest.drop header.length,
        by rw [List.length_drop]; omega⟩
termination_by (s.length, 0)

/-- Reads the parts of a constructed object of `length` bytes, after parts of `size` bytes; `parts`
are those already read, the last one first. -/
def readParts (bound length size : Nat) (parts : List Object) (s : Bytes)
    (hs : s.length < bound) : Except TlvFault (Reading (List Object) bound) :=
  if size < length then
    match readObject s with
    | .error fault => .error fault
    | .ok ⟨part, rest, shorter⟩ =>
      readParts bound length (size + part.size) (part :: parts) rest (Nat.lt_trans shorter hs)
  else if size = length then .ok ⟨parts.reverse, s, hs⟩
  else .error .inconsistent
termination_by (s.length, 1)

end

/-- Reads one object from the front and returns what is left. -/
def read (s : Bytes) : Except TlvFault (Object × Bytes) :=
  (readObject s).map fun reading => (reading.value, reading.rest)

/-- Reads objects until nothing is left, after the objects already read, the last one first. -/
def readAllAfter (objects : List Object) (s : Bytes) : Except TlvFault (List Object) :=
  if s.isEmpty then .ok objects.reverse
  else
    match readObject s with
    | .error fault => .error fault
    | .ok ⟨object, rest, _⟩ => readAllAfter (object :: objects) rest
termination_by s.length

def readAll (s : Bytes) : Except TlvFault (List Object) := readAllAfter [] s

end SmartCard.Ber
