import SmartCard.Bytes.Block

/-!
# Fields of fixed widths

Much of what a card tells is laid out in fields of fixed widths, one after the other. Read by
position, a field is a slice of a block, and a slice with what follows it is what the slice starts
(`Block.slice_append_drop`).

Read in order, each field is cut off where the one before it has ended (`Fields.cut`). That place
moves on with each field, and a field that would reach over the end of the data is not there. What
is cut off are the fields that the data was written from: of the right widths, one after the other,
and the last of them ends where the place has got to (`Fields.run_cutAll_eq_some_iff`). -/

namespace SmartCard

/-! ### Fields of a block -/

namespace Block

variable {n : Nat}

/-- A field and what follows it. -/
theorem slice_append_drop (b : Block n) (start len : Nat) (h : start + len ≤ n) :
    (b.slice start len h).toList ++ b.toList.drop (start + len) = b.toList.drop start := by
  rw [toList_slice, ← List.drop_drop, List.take_append_drop]

/-- A byte and what follows it. -/
theorem getElem_cons_drop (b : Block n) (i : Nat) (h : i < n) :
    b[i] :: b.toList.drop (i + 1) = b.toList.drop i :=
  (List.drop_eq_getElem_cons (by simpa using h)).symm

theorem getElem?_toList (b : Block n) (i : Nat) (h : i < n) : b.toList[i]? = some b[i] :=
  List.getElem?_eq_getElem (by simpa using h)

theorem drop_toList (b : Block n) : b.toList.drop n = [] :=
  List.drop_eq_nil_of_le (by simp)

end Block

/-! ### Fields in order -/

namespace Fields

variable {before s field data : Bytes} {fields : List Bytes} {width start stop : Nat}
  {widths : List Nat}

/-- The field of the given width at the place that reading has got to, which moves behind it. -/
def cut (data : Bytes) (width : Nat) : StateT Nat Option Bytes := fun start =>
  if start + width ≤ data.length then some ((data.drop start).take width, start + width) else none

/-- Fields of the given widths, each from where the one before it has ended. -/
def cutAll (data : Bytes) (widths : List Nat) : StateT Nat Option (List Bytes) :=
  widths.mapM (cut data)

/-- **A field is cut off exactly if it is there.** -/
theorem run_cut_eq_some_iff : (cut (before ++ s) width).run before.length = some (field, stop) ↔
    ∃ after, s = field ++ after ∧ field.length = width ∧ stop = (before ++ field).length := by
  show (if _ then some _ else none) = _ ↔ _
  rw [List.drop_left, List.length_append]
  constructor
  · intro h
    split at h
    · rename_i hfits
      obtain ⟨rfl, rfl⟩ := Prod.mk.inj (Option.some.inj h)
      -- the bytes are there, so the field has the full width
      have hlen : (s.take width).length = width := List.length_take_of_le (by omega)
      exact ⟨s.drop width, (List.take_append_drop _ _).symm, hlen, by rw [List.length_append, hlen]⟩
    · cases h
  · rintro ⟨after, rfl, rfl, rfl⟩
    rw [if_pos (by rw [List.length_append]; omega), List.take_left, List.length_append]

theorem run_cutAll_nil (data : Bytes) (start : Nat) :
    (cutAll data []).run start = some ([], start) := rfl

theorem run_cutAll_cons (data : Bytes) (width : Nat) (widths : List Nat) (start : Nat) :
    (cutAll data (width :: widths)).run start =
      ((cut data width).run start).bind fun first =>
        ((cutAll data widths).run first.2).bind fun rest => some (first.1 :: rest.1, rest.2) := by
  rw [cutAll, List.mapM_cons]
  rfl

/-- **Fields are cut off exactly if all of them are there.** What is in front of them has been read
before, and what is behind them is left. -/
theorem run_cutAll_eq_some_iff :
    (cutAll (before ++ s) widths).run before.length = some (fields, stop) ↔
      ∃ after, s = fields.flatten ++ after ∧ fields.map List.length = widths ∧
        stop = (before ++ fields.flatten).length := by
  -- on the widths, for all that was read before
  induction widths generalizing before s fields stop with
  | nil =>
    rw [run_cutAll_nil]
    constructor
    · intro h
      obtain ⟨rfl, rfl⟩ := Prod.mk.inj (Option.some.inj h)
      exact ⟨s, rfl, rfl, by rw [List.flatten_nil, List.append_nil]⟩
    · rintro ⟨after, -, hnone, rfl⟩
      rw [List.map_eq_nil_iff.1 hnone, List.flatten_nil, List.append_nil]
  | cons width widths ih =>
    simp only [run_cutAll_cons, Option.bind_eq_some_iff, Prod.exists]
    constructor
    · rintro ⟨first, next, hfirst, rest, last, hrest, h⟩
      obtain ⟨after, rfl, rfl, rfl⟩ := run_cut_eq_some_iff.1 hfirst
      obtain ⟨rfl, rfl⟩ := Prod.mk.inj (Option.some.inj h)
      -- the first field belongs to what was read before the others
      rw [← List.append_assoc] at hrest
      obtain ⟨behind, rfl, rfl, rfl⟩ := ih.1 hrest
      exact ⟨behind, by rw [List.flatten_cons, List.append_assoc], rfl,
        by rw [List.flatten_cons, List.append_assoc]⟩
    · rintro ⟨behind, rfl, hwidths, rfl⟩
      -- the first width is that of the first field, and the others are left for the rest
      obtain ⟨first, rest, rfl, hfirst, hrest⟩ := List.map_eq_cons_iff.1 hwidths
      have hdata : before ++ ((first :: rest).flatten ++ behind) =
          before ++ first ++ (rest.flatten ++ behind) := by
        rw [List.flatten_cons, List.append_assoc, List.append_assoc]
      have hstop : before ++ (first :: rest).flatten = before ++ first ++ rest.flatten := by
        rw [List.flatten_cons, List.append_assoc]
      have hcut : (cut (before ++ (first ++ (rest.flatten ++ behind))) width).run before.length =
          some (first, (before ++ first).length) :=
        run_cut_eq_some_iff.2 ⟨_, rfl, hfirst, rfl⟩
      have hcutAll : (cutAll (before ++ first ++ (rest.flatten ++ behind)) widths).run
          (before ++ first).length = some (rest, (before ++ first ++ rest.flatten).length) :=
        ih.2 ⟨behind, rfl, hrest, rfl⟩
      rw [hdata, hstop]
      rw [← List.append_assoc] at hcut
      exact ⟨first, _, hcut, rest, _, hcutAll, rfl⟩

end Fields

end SmartCard
