import Crosscheck.Proofs.Capture

/-! # Deliveries of a stream

A stream is delivered by attempts to read it, each of which brings some bytes or is interrupted; an
attempt that brings nothing is its end. What is told of the stream depends on its bytes alone, and
not on where the chunks end or on when there was an interruption.
-/

namespace Crosscheck

variable {ε : Type}

namespace Reading

/-- The stream goes on after this attempt. -/
def Underway : Reading ε → Prop
  | .chunk bytes => bytes ≠ []
  | .interrupted => True
  | .failed _ => False

/-- The bytes that came with an attempt. -/
def bytes : Reading ε → Bytes
  | .chunk bytes => bytes
  | .interrupted | .failed _ => []

/-- These attempts bring the stream, and it has not ended or failed before. -/
structure Delivers (before : List (Reading ε)) (stream : Bytes) : Prop where
  underway : ∀ reading ∈ before, reading.Underway
  flatMap_bytes : before.flatMap bytes = stream

theorem content_append {before : List (Reading ε)} (h : ∀ reading ∈ before, reading.Underway)
    (rest : List (Reading ε)) : content (before ++ rest) = before.flatMap bytes ++ content rest := by
  induction before with
  | nil => rfl
  | cons reading before ih =>
    obtain ⟨hfirst, hmore⟩ := List.forall_mem_cons.mp h
    have hrest := ih hmore
    match reading with
    | .interrupted => exact hrest
    | .failed error => exact absurd hfirst id
    | .chunk [] => exact absurd rfl hfirst
    | .chunk (b :: more) =>
      rw [List.cons_append, content, hrest, List.flatMap_cons, List.append_assoc]
      rfl

theorem Delivers.content_ended {before : List (Reading ε)} {stream : Bytes}
    (h : Delivers before stream) (after : List (Reading ε)) :
    content (before ++ .chunk [] :: after) = stream := by
  rw [content_append h.underway, h.flatMap_bytes, content, List.append_nil]

end Reading

namespace Capture

open Reading

/-- What is told of a stream: the bytes that are kept, and whether there were more. -/
def told (capture : Capture) : Bytes × Bool :=
  (capture.kept, capture.cut)

theorem Holds.told_eq {capture : Capture} {cap : Nat} {bytes : Bytes} (h : capture.Holds cap bytes) :
    capture.told = (bytes.take cap, decide (cap < bytes.length)) := by
  unfold told
  rw [h.kept, h.cut]

/-- While the stream goes on, reading changes the capture and no more: what comes behind is read as
if the capture had begun there. -/
theorem exists_read_append {before : List (Reading ε)} (h : ∀ reading ∈ before, reading.Underway)
    (capture : Capture) :
    ∃ next : Capture, ∀ rest, capture.read (before ++ rest) = next.read rest := by
  induction before generalizing capture with
  | nil => exact ⟨capture, fun _ => rfl⟩
  | cons reading before ih =>
    obtain ⟨hfirst, hmore⟩ := List.forall_mem_cons.mp h
    match reading with
    | .interrupted => exact ih hmore capture
    | .failed error => exact absurd hfirst id
    | .chunk [] => exact absurd rfl hfirst
    | .chunk (b :: more) => exact ih hmore (capture.add (b :: more))

theorem told_of_ended {before : List (Reading ε)} {stream : Bytes} (h : Delivers before stream)
    (cap : Nat) (after : List (Reading ε)) :
    ((start cap).read (before ++ .chunk [] :: after)).map told =
      .ok (stream.take cap, decide (cap < stream.length)) := by
  obtain ⟨next, hnext⟩ := exists_read_append h.underway (start cap)
  have hread : (start cap).read (before ++ .chunk [] :: after) = .ok next := hnext _
  have hholds : next.Holds cap stream := by
    rw [← h.content_ended after]
    exact holds_of_read hread
  rw [hread, Except.map, hholds.told_eq]

theorem read_of_failed {before : List (Reading ε)} {stream : Bytes} (h : Delivers before stream)
    (capture : Capture) (error : ε) (after : List (Reading ε)) :
    capture.read (before ++ .failed error :: after) = .error error := by
  obtain ⟨next, hnext⟩ := exists_read_append h.underway capture
  rw [hnext, read]

/-! ## A byte string as a delivery -/

/-- Chunks of a positive size, of which there are enough, deliver the byte string. -/
theorem exists_deliver_eq {size n : Nat} {bytes : Bytes} (hsize : 0 < size)
    (h : bytes.length ≤ n * size) :
    ∃ before : List (Reading ε), deliver size n bytes = before ++ [.chunk []] ∧
      Delivers before bytes := by
  induction n generalizing bytes with
  | zero =>
    have hempty : bytes = [] := List.length_eq_zero_iff.mp (by omega)
    exact ⟨[], rfl, by simp, hempty.symm⟩
  | succ n ih =>
    unfold deliver
    by_cases hempty : bytes = []
    · exact ⟨[], by simp [hempty], by simp, hempty.symm⟩
    · have hlength : (bytes.drop size).length ≤ n * size := by
        rw [Nat.succ_mul] at h
        rw [List.length_drop]
        omega
      obtain ⟨before, hdeliver, hbefore⟩ := ih hlength
      have hfirst : bytes.take size ≠ [] := by
        rw [Ne, List.take_eq_nil_iff, not_or]
        exact ⟨by omega, hempty⟩
      refine ⟨.chunk (bytes.take size) :: before, ?_, ?_, ?_⟩
      · rw [if_neg (by simpa using hempty), hdeliver, List.cons_append]
      · exact List.forall_mem_cons.mpr ⟨hfirst, hbefore.underway⟩
      · rw [List.flatMap_cons, hbefore.flatMap_bytes]
        exact List.take_append_drop size bytes

theorem told_ofBytes (cap : Nat) (bytes : Bytes) :
    (ofBytes cap bytes).told = (bytes.take cap, decide (cap < bytes.length)) := by
  have hlength : bytes.length ≤ (bytes.length / 8192 + 1) * 8192 := by omega
  obtain ⟨before, hdeliver, hbefore⟩ :=
    exists_deliver_eq (ε := Empty) (by decide : 0 < 8192) hlength
  have htold := told_of_ended hbefore cap []
  rw [← hdeliver] at htold
  unfold ofBytes
  dsimp only
  split
  · next capture hread =>
    rw [hread] at htold
    exact Except.ok.inj htold
  · next error _ => exact nomatch error

/-! ## Chunks do not matter -/

/-- A delivery that comes to its end tells the first `cap` bytes of the stream and whether there
were more, and so does the stream as one byte string; a delivery that fails gives its failure. Two
deliveries of a stream tell the same of it, and a stream of just `cap` bytes is told whole. -/
theorem capture_ignores_chunking (cap : Nat) {before : List (Reading ε)} {stream : Bytes}
    (h : Delivers before stream) (after : List (Reading ε)) :
    ((start cap).read (before ++ .chunk [] :: after)).map told =
      .ok (stream.take cap, decide (cap < stream.length)) ∧
    (ofBytes cap stream).told = (stream.take cap, decide (cap < stream.length)) ∧
    (∀ error, (start cap).read (before ++ .failed error :: after) = .error error) ∧
    (∀ other after', Delivers other stream →
      ((start cap).read (other ++ .chunk [] :: after')).map told =
        ((start cap).read (before ++ .chunk [] :: after)).map told) ∧
    (stream.length = cap →
      ((start cap).read (before ++ .chunk [] :: after)).map told = .ok (stream, false)) := by
  have htold := told_of_ended h cap after
  refine ⟨htold, told_ofBytes cap stream, fun error => read_of_failed h _ error after, ?_, ?_⟩
  · intro other after' hother
    rw [htold, told_of_ended hother cap after']
  · intro hfull
    have hwhole : stream.take cap = stream := List.take_of_length_le (by omega)
    have hcut : ¬ cap < stream.length := by omega
    rw [htold, hwhole, decide_eq_false hcut]

/-- Three bytes in two chunks, with interruptions. -/
def brokenReadings : List (Reading Unit) :=
  [.interrupted, .chunk [1, 2], .interrupted, .interrupted, .chunk [3]]

/-- The second chunk starts where the cap of two is reached, and ends where the cap of three is. -/
theorem brokenReadings_are_told :
    Delivers brokenReadings [1, 2, 3] ∧
    Delivers ([.chunk [1, 2, 3]] : List (Reading Unit)) [1, 2, 3] ∧
    ((start 2).read (brokenReadings ++ [.chunk []])).map told = .ok ([1, 2], true) ∧
    ((start 2).read ([.chunk [1, 2, 3]] ++ [.chunk [], .failed ()])).map told =
      .ok ([1, 2], true) ∧
    ((start 3).read (brokenReadings ++ [.chunk []])).map told = .ok ([1, 2, 3], false) ∧
    (start 3).read (brokenReadings ++ [.failed ()]) = .error () := by
  have hbroken : Delivers brokenReadings [1, 2, 3] := ⟨by simp [brokenReadings, Underway], rfl⟩
  have hwhole : Delivers ([.chunk [1, 2, 3]] : List (Reading Unit)) [1, 2, 3] :=
    ⟨by simp [Underway], rfl⟩
  obtain ⟨hshort, -, -, hother, -⟩ := capture_ignores_chunking 2 hbroken []
  obtain ⟨-, -, hfailed, -, hfull⟩ := capture_ignores_chunking 3 hbroken []
  exact ⟨hbroken, hwhole, hshort, (hother _ _ hwhole).trans hshort, hfull rfl, hfailed ()⟩

end Capture

end Crosscheck
