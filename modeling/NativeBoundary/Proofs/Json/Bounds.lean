import NativeBoundary.Proofs.Action.Results
import NativeBoundary.Proofs.Json.Reading

/-!
# What is read keeps to the limits

Whatever text is accepted as a document, the value that is read is nested in no more levels than
are left, and has no number with more digits than are admitted.
-/

namespace NativeBoundary.Json

theorem isDigit_spanDigits {text : List Char} : ∀ c ∈ (spanDigits text).1, c.isDigit = true :=
  List.all_eq_true.mp List.all_takeWhile

theorem isDigit_wholePart (text : List Char) : ∀ c ∈ (wholePart text).1, c.isDigit = true := by
  unfold wholePart
  split
  · exact List.forall_mem_singleton.mpr rfl
  · exact isDigit_spanDigits

theorem within_of_numberBody {negative : Bool} {text rest : List Char} {found : Json} {room : Nat}
    (read : numberBody .document negative text = .ok (found, rest)) : found.Within room := by
  have digits := isDigit_wholePart text
  simp only [numberBody] at read
  split at read
  · cases read
  split at read
  · cases read
  next admits =>
  split at read
  · cases read
    rw [within_integer_iff]
    have short : (wholePart text).1.length ≤ Limits.longestNumeral := by
      simpa [Limits.document] using admits
    have small := Nat.lt_of_lt_of_le (digitsValue_lt digits)
      (Nat.pow_le_pow_right (by decide : 0 < 10) short)
    split
    · rwa [Int.natAbs_neg, Int.natAbs_natCast]
    · rwa [Int.natAbs_natCast]
  · cases read
    exact within_decimal _ room

theorem within_of_word {letters text rest : List Char} {value found : Json} {room : Nat}
    (read : orMalformed ((dropWord letters text).map (value, ·)) = .ok (found, rest))
    (flat : value.Within room) : found.Within room := by
  cases dropped : dropWord letters text with
  | none =>
      rw [dropped] at read
      cases read
  | some after =>
      rw [dropped] at read
      cases read
      exact flat

/-- A member that was put is the new one or was there before. -/
theorem mem_put {name : String} {value : Json} {done : List (String × Json)}
    {member : String × Json} (inside : member ∈ put name value done) :
    member = (name, value) ∨ member ∈ done := by
  induction done with
  | nil => exact .inl (List.mem_singleton.mp inside)
  | cons first rest ih =>
      obtain ⟨key, item⟩ := first
      unfold put at inside
      split at inside
      · rcases List.mem_cons.mp inside with same | later
        · exact .inl same
        · exact .inr (List.mem_cons_of_mem _ later)
      · rcases List.mem_cons.mp inside with same | later
        · exact .inr (same ▸ List.mem_cons_self)
        · exact (ih later).imp_right (List.mem_cons_of_mem _)

theorem mem_foldl_put {members done : List (String × Json)} {member : String × Json}
    (inside : member ∈ members.foldl (fun done member => put member.1 member.2 done) done) :
    member ∈ members ∨ member ∈ done := by
  induction members generalizing done with
  | nil => exact .inr inside
  | cons first rest ih =>
      rcases ih inside with later | before
      · exact .inl (List.mem_cons_of_mem _ later)
      · rcases mem_put before with same | before
        · exact .inl (same ▸ List.mem_cons_self)
        · exact .inr before

/-- Whatever is read in so many steps keeps to the limits. -/
structure ReadsWithin (bound : Nat) : Prop where
  value : ∀ {room : Nat} {text rest : List Char} {found : Json},
    Json.value .document bound room text = .ok (found, rest) → found.Within room
  items : ∀ {room : Nat} {text rest : List Char} {found : List Json},
    Json.items .document bound room text = .ok (found, rest) → ∀ item ∈ found, item.Within room
  members : ∀ {room : Nat} {text rest : List Char} {found : List (String × Json)},
    Json.members .document bound room text = .ok (found, rest) →
      ∀ member ∈ found, member.2.Within room

theorem ReadsWithin.value_succ {bound room : Nat} {text rest : List Char} {found : Json}
    (ih : ReadsWithin bound)
    (read : Json.value .document (bound + 1) room text = .ok (found, rest)) :
    found.Within room := by
  unfold Json.value at read
  split at read
  · exact within_of_word read (within_null room)
  · exact within_of_word read (within_bool true room)
  · exact within_of_word read (within_bool false room)
  · exact within_of_word read (within_decimal _ room)
  · exact within_of_word read (within_decimal _ room)
  · exact within_of_word read (within_decimal _ room)
  · exact within_of_numberBody read
  · obtain ⟨given, -, finished⟩ := Results.bind_eq_ok.mp read
    cases finished
    exact within_string _ room
  · split at read
    · cases read
      exact within_noItems _
    · cases read
    · obtain ⟨given, inner, finished⟩ := Results.bind_eq_ok.mp read
      cases finished
      exact within_array_succ.mpr (ih.items inner)
  · split at read
    · cases read
      exact within_noMembers _
    · cases read
    · obtain ⟨given, inner, finished⟩ := Results.bind_eq_ok.mp read
      cases finished
      refine within_object_succ.mpr fun member inside => ?_
      rcases mem_foldl_put inside with written | before
      · exact ih.members inner member written
      · cases before
  · exact within_of_numberBody read

theorem ReadsWithin.items_succ {bound room : Nat} {text rest : List Char} {found : List Json}
    (ih : ReadsWithin bound)
    (read : Json.items .document (bound + 1) room text = .ok (found, rest)) :
    ∀ item ∈ found, item.Within room := by
  rw [Json.items.eq_2] at read
  obtain ⟨given, first, read⟩ := Results.bind_eq_ok.mp read
  have firstWithin := ih.value first
  split at read
  next item after =>
  split at read
  · cases read
    exact List.forall_mem_singleton.mpr firstWithin
  · obtain ⟨others, behind, finished⟩ := Results.bind_eq_ok.mp read
    cases finished
    exact List.forall_mem_cons.mpr ⟨firstWithin, ih.items behind⟩
  · cases read

theorem ReadsWithin.members_succ {bound room : Nat} {text rest : List Char}
    {found : List (String × Json)} (ih : ReadsWithin bound)
    (read : Json.members .document (bound + 1) room text = .ok (found, rest)) :
    ∀ member ∈ found, member.2.Within room := by
  rw [Json.members.eq_2] at read
  obtain ⟨inner, -, read⟩ := Results.bind_eq_ok.mp read
  obtain ⟨named, -, read⟩ := Results.bind_eq_ok.mp read
  obtain ⟨afterColon, -, read⟩ := Results.bind_eq_ok.mp read
  obtain ⟨given, first, read⟩ := Results.bind_eq_ok.mp read
  have firstWithin := ih.value first
  split at read
  next item after =>
  split at read
  · cases read
    exact List.forall_mem_singleton.mpr firstWithin
  · obtain ⟨others, behind, finished⟩ := Results.bind_eq_ok.mp read
    cases finished
    exact List.forall_mem_cons.mpr ⟨firstWithin, ih.members behind⟩
  · cases read

theorem readsWithin (bound : Nat) : ReadsWithin bound := by
  induction bound with
  | zero => exact ⟨nofun, nofun, nofun⟩
  | succ bound ih => exact ⟨ih.value_succ, ih.items_succ, ih.members_succ⟩

theorem within_of_read {text : String} {value : Json} (read : Json.read .document text = .ok value) :
    value.Within Limits.document.nesting := by
  obtain ⟨⟨found, after⟩, inner, finished⟩ := Results.bind_eq_ok.mp read
  simp only at finished
  split at finished
  · cases finished
    exact (readsWithin _).value inner
  · cases finished

end NativeBoundary.Json
