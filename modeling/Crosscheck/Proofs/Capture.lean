import Crosscheck.Process.Capture

/-! # What is kept of a stream

A stream may arrive in any chunks, with interruptions between them. Whatever the chunks, the capture
keeps the first `cap` bytes of the whole stream, and it is cut exactly when there were more. The
invariant `Capture.Holds` ties a capture to the bytes that have arrived so far.
-/

namespace Crosscheck

/-- The bytes of a stream up to its end, chunks put together. -/
def Reading.content {ε : Type} : List (Reading ε) → Bytes
  | [] => []
  | .interrupted :: rest => content rest
  | .failed _ :: _ => []
  | .chunk [] :: _ => []
  | .chunk (b :: bytes) :: rest => b :: bytes ++ content rest

namespace Capture

/-- The capture of a stream of which `bytes` have arrived. -/
structure Holds (capture : Capture) (cap : Nat) (bytes : Bytes) : Prop where
  kept : capture.kept = bytes.take cap
  room : capture.room = cap - bytes.length
  cut : capture.cut = decide (cap < bytes.length)

theorem holds_start (cap : Nat) : (start cap).Holds cap [] := by
  refine ⟨?_, ?_, ?_⟩ <;> simp [start, kept]

theorem kept_cons (chunk : Bytes) (chunks : List Bytes) (room : Nat) (cut : Bool) :
    kept ⟨chunk :: chunks, room, cut⟩ = chunks.reverse.flatten ++ chunk := by
  simp [kept]

theorem Holds.add {capture : Capture} {cap : Nat} {bytes : Bytes} (h : capture.Holds cap bytes)
    (chunk : Bytes) : (capture.add chunk).Holds cap (bytes ++ chunk) := by
  have hkept : capture.chunks.reverse.flatten = bytes.take cap := h.kept
  unfold Capture.add
  by_cases hcut : cap < bytes.length
  · -- Past the cap nothing changes any more.
    have hc : capture.cut = true := by rw [h.cut]; exact decide_eq_true hcut
    rw [if_pos hc]
    refine ⟨?_, ?_, ?_⟩
    · rw [h.kept, List.take_append_of_le_length (by omega)]
    · rw [h.room, List.length_append]
      omega
    · rw [hc, List.length_append]
      exact (decide_eq_true (by omega)).symm
  · have hc : ¬ capture.cut = true := by rw [h.cut]; simpa using hcut
    have hall : bytes.take cap = bytes := List.take_of_length_le (by omega)
    rw [if_neg hc]
    by_cases hroom : chunk.length ≤ capture.room
    · rw [if_pos hroom]
      rw [h.room] at hroom
      refine ⟨?_, ?_, ?_⟩
      · rw [kept_cons, hkept, hall, List.take_of_length_le]
        rw [List.length_append]
        omega
      · simp only [h.room, List.length_append]
        omega
      · rw [List.length_append]
        exact (decide_eq_false (by omega)).symm
    · rw [if_neg hroom]
      rw [h.room] at hroom
      refine ⟨?_, ?_, ?_⟩
      · rw [kept_cons, hkept, hall, h.room, List.take_append, hall]
      · simp only [List.length_append]
        omega
      · rw [List.length_append]
        exact (decide_eq_true (by omega)).symm

/-- What holds of a capture goes on holding while the rest of the stream is read. -/
theorem Holds.read {ε : Type} {cap : Nat} {capture result : Capture} {bytes : Bytes}
    {readings : List (Reading ε)} (h : capture.Holds cap bytes)
    (hr : capture.read readings = .ok result) :
    result.Holds cap (bytes ++ Reading.content readings) := by
  induction readings generalizing capture bytes with
  | nil =>
    cases hr
    simpa [Reading.content] using h
  | cons reading rest ih =>
    match reading with
    | .interrupted => exact ih h hr
    | .failed error => cases hr
    | .chunk [] =>
      cases hr
      simpa [Reading.content] using h
    | .chunk (b :: chunk) =>
      have hnext := ih (h.add (b :: chunk)) hr
      rw [List.append_assoc] at hnext
      exact hnext

theorem holds_of_read {ε : Type} {cap : Nat} {result : Capture} {readings : List (Reading ε)}
    (hr : (start cap).read readings = .ok result) : result.Holds cap (Reading.content readings) := by
  simpa using (holds_start cap).read hr

/-- A capture that is not cut is the whole stream, and a cut one belongs to a stream too long. -/
theorem Holds.cut_eq_false_iff {capture : Capture} {cap : Nat} {bytes : Bytes}
    (h : capture.Holds cap bytes) : capture.cut = false ↔ bytes.length ≤ cap := by
  rw [h.cut, decide_eq_false_iff_not, Nat.not_lt]

theorem Holds.kept_eq {capture : Capture} {cap : Nat} {bytes : Bytes}
    (h : capture.Holds cap bytes) (hlen : bytes.length ≤ cap) : capture.kept = bytes := by
  rw [h.kept, List.take_of_length_le hlen]

end Capture

end Crosscheck
