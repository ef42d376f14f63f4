import Mathlib.Data.List.Basic
import PaymentRelay.Http.Endpoint

/-
  Which paths lead where.

  An endpoint is written as a path, in which its segment is the last one. A path leads to the
  endpoint that it is written from, and to no other; a path that is written from no endpoint leads
  nowhere (`Endpoint.ofPath?_eq_some_iff`).
-/

namespace PaymentRelay.Http.Endpoint

/-- The path that leads to an endpoint. -/
def path : Endpoint → String
  | .health => "/health"
  | .payment id => "/api/v1/payment/" ++ id
  | .proofs txId => "/api/v1/proofs/" ++ txId
  | .wallets channel => "/ws/" ++ channel

/-- A text is one segment of a path. -/
def IsSegment (s : String) : Prop := s ≠ "" ∧ '/' ∉ s.toList

/-- The endpoint is there, where wallets are served or not. -/
def IsThere (serving : Bool) : Endpoint → Prop
  | .health => True
  | .payment id => IsSegment id
  | .proofs txId => IsSegment txId
  | .wallets channel => IsSegment channel ∧ serving = true

/-- The segments of the path of an endpoint, the first of which stands before its first slash. -/
def segments : Endpoint → List String
  | .health => ["", "health"]
  | .payment id => ["", "api", "v1", "payment", id]
  | .proofs txId => ["", "api", "v1", "proofs", txId]
  | .wallets channel => ["", "ws", channel]

variable {serving : Bool} {s : String} {p : Endpoint}

theorem not_mem_of_mem_splitOn {sep : Char} {cs piece : List Char}
    (h : piece ∈ cs.splitOn sep) : sep ∉ piece := by
  induction cs generalizing piece with
  | nil =>
    obtain rfl : piece = [] := by simpa using h
    exact List.not_mem_nil
  | cons c rest ih =>
    rw [List.splitOn, List.splitOnP_cons_eq_if_modifyHead] at h
    by_cases same : c = sep
    · rw [if_pos (beq_iff_eq.mpr same)] at h
      obtain rfl | h := List.mem_cons.mp h
      · exact List.not_mem_nil
      · exact ih h
    · rw [if_neg (by simpa using same)] at h
      -- The first piece of the rest goes on with the character.
      cases pieces : rest.splitOnP (· == sep) with
      | nil => simp [pieces] at h
      | cons first others =>
        have later : ∀ piece ∈ first :: others, sep ∉ piece := fun piece h =>
          ih (by rw [List.splitOn, pieces]; exact h)
        rw [pieces, List.modifyHead_cons] at h
        obtain rfl | h := List.mem_cons.mp h
        · simpa [Ne.symm same] using later first List.mem_cons_self
        · exact later piece (List.mem_cons_of_mem _ h)

theorem toList_path (p : Endpoint) :
    p.path.toList = ['/'].intercalate (p.segments.map String.toList) := by
  cases p with
  | health => rfl
  | payment id =>
    show ("/api/v1/payment/" ++ id).toList = _
    simp [segments, List.intercalate]
  | proofs txId =>
    show ("/api/v1/proofs/" ++ txId).toList = _
    simp [segments, List.intercalate]
  | wallets channel =>
    show ("/ws/" ++ channel).toList = _
    simp [segments, List.intercalate]

/-- The segments of an endpoint lead to it, if none of them but the first is empty and wallets are
served where they connect. -/
theorem ofSegments?_eq_some_iff {l : List String} :
    ofSegments? serving l = some p ↔
      l = p.segments ∧ "" ∉ p.segments.tail ∧ ∀ channel, p = .wallets channel → serving = true := by
  constructor
  · intro h
    unfold ofSegments? at h
    split at h
    · cases h
      exact ⟨rfl, by simp [segments], nofun⟩
    · split at h
      · cases h
      · next filled =>
        cases h
        exact ⟨rfl, by simpa [segments] using Ne.symm filled, nofun⟩
    · split at h
      · cases h
      · next filled =>
        cases h
        exact ⟨rfl, by simpa [segments] using Ne.symm filled, nofun⟩
    · split at h
      · cases h
      · next open_ =>
        cases h
        rw [not_or] at open_
        exact ⟨rfl, by simpa [segments] using Ne.symm open_.1, fun _ _ => by simpa using open_.2⟩
    · cases h
  · rintro ⟨rfl, filled, served⟩
    cases p with
    | health => rfl
    | payment id | proofs id =>
      have filled : id ≠ "" := by rintro rfl; simp [segments] at filled
      exact if_neg filled
    | wallets channel =>
      have filled : channel ≠ "" := by rintro rfl; simp [segments] at filled
      exact if_neg (not_or.mpr ⟨filled, by simp [served channel rfl]⟩)

/-- The segments of a path. -/
theorem map_splitOn_eq_iff :
    (s.toList.splitOn '/').map String.ofList = p.segments ↔
      s = p.path ∧ ∀ piece ∈ p.segments, '/' ∉ piece.toList := by
  constructor
  · intro h
    have pieces : s.toList.splitOn '/' = p.segments.map String.toList := by
      rw [← h, List.map_map]
      simp [Function.comp_def]
    refine ⟨?_, fun piece hp => ?_⟩
    · rw [← String.toList_inj, toList_path, ← pieces, List.intercalate_splitOn]
    · exact not_mem_of_mem_splitOn (pieces ▸ List.mem_map_of_mem hp)
  · rintro ⟨rfl, free⟩
    rw [toList_path, List.splitOn_intercalate]
    · simp [Function.comp_def]
    · simpa using free
    · cases p <;> simp [segments]

/-- A path leads to the endpoint that it is written from, if that is there. -/
theorem ofPath?_eq_some_iff : ofPath? serving s = some p ↔ s = p.path ∧ p.IsThere serving := by
  rw [ofPath?, ofSegments?_eq_some_iff, map_splitOn_eq_iff, and_assoc, and_congr_right_iff]
  intro _
  cases p with
  | health => simp [segments, IsThere]
  | payment id | proofs id => simpa [segments, IsThere, IsSegment] using and_comm
  | wallets channel =>
    simpa [segments, IsThere, IsSegment] using and_left_comm.trans and_assoc.symm

/-- A path that is written from no endpoint leads nowhere. -/
theorem ofPath?_eq_none_iff :
    ofPath? serving s = none ↔ ∀ p : Endpoint, p.IsThere serving → s ≠ p.path := by
  rw [Option.eq_none_iff_forall_ne_some]
  exact forall_congr' fun p => by rw [ne_eq, ofPath?_eq_some_iff, not_and', ne_eq]

end PaymentRelay.Http.Endpoint
