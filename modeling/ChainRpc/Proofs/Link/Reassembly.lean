import ChainRpc.Proofs.Link.Steps
import ChainRpc.Proofs.Text.Utf8
import Mathlib.Data.List.DropRight

/-!
# Reassembly

An assembly says of a message what its bytes say, however they were cut. Its state is a function of
the bytes that came since the last message was complete or given up, so nothing of an earlier
message is left, and no cut shows. It never holds more bytes than a message may have. What it
reports of waiting fragments goes by their bytes too, so it does not report those that are empty.
-/

namespace ChainRpc.Link.Assembly

open Text (Utf8.decode Utf8.encode)

/-- What happens to an assembly. -/
inductive Step where
  | push (fragment : List UInt8) (last : Bool)
  | clear

namespace Step

/-- A fragment that others follow. -/
def isPart : Step → Bool
  | push _ last => !last
  | clear => false

/-- The bytes that come in a step. -/
def fragment : Step → List UInt8
  | push fragment _ => fragment
  | clear => []

end Step

/-- The assembly after one step. -/
def step (assembly : Assembly) : Step → Assembly
  | .push fragment last => (assembly.push fragment last).2
  | .clear => assembly.clear

/-- The assembly after steps in their order. -/
def run (assembly : Assembly) (history : List Step) : Assembly := history.foldl step assembly

/-- The bytes of the fragments that came since a message was complete or given up. -/
def gathered (history : List Step) : List UInt8 :=
  (history.rtakeWhile Step.isPart).flatMap Step.fragment

/-- What a whole message says: it is too large, or a text, or no text. -/
def verdict (limit : Nat) (bytes : List UInt8) : Except Error (Option String) :=
  if limit < bytes.length then .error (.malformed (.oversized bytes.length limit))
  else
    match Utf8.decode bytes with
    | .ok text => .ok (some text)
    | .error fault => .error (.malformed (.message fault))

/-- The assembly of bytes that came in one piece. -/
def ofBytes (limit : Nat) (bytes : List UInt8) : Assembly where
  limit := limit
  held := if limit < bytes.length then [] else bytes
  size := bytes.length
  overflowed := decide (limit < bytes.length)

/-! ### One fragment -/

theorem ofBytes_nil (limit : Nat) : ofBytes limit [] = empty limit := by
  simp [ofBytes, empty]

/-- A fragment makes the bytes longer, and it does not matter where they were cut. -/
theorem add_ofBytes (limit : Nat) (bytes fragment : List UInt8) :
    (ofBytes limit bytes).add fragment = ofBytes limit (bytes ++ fragment) := by
  by_cases hlarge : limit < bytes.length + fragment.length
  · simp [add, ofBytes, hlarge]
  · -- What fits with the fragment has fitted before, so it was held.
    have hfitted : ¬ limit < bytes.length := by omega
    simp [add, ofBytes, hlarge, hfitted]

theorem message_ofBytes (limit : Nat) (bytes : List UInt8) :
    (ofBytes limit bytes).message.map some = verdict limit bytes := by
  by_cases hlarge : limit < bytes.length
  · simp [message, verdict, ofBytes, hlarge, Except.map]
  · simp only [message, verdict, ofBytes, hlarge, decide_false, Bool.false_eq_true, if_false]
    cases Utf8.decode bytes <;> rfl

theorem push_ofBytes_part (limit : Nat) (bytes fragment : List UInt8) :
    (ofBytes limit bytes).push fragment false
      = (.ok none, ofBytes limit (bytes ++ fragment)) := by
  simp [push, add_ofBytes]

theorem push_ofBytes_last (limit : Nat) (bytes fragment : List UInt8) :
    (ofBytes limit bytes).push fragment true
      = (verdict limit (bytes ++ fragment), empty limit) := by
  simp only [push, add_ofBytes, message_ofBytes, if_true]
  rfl

/-- What arrives whole is judged by its size and by its bytes. -/
theorem push_whole (limit : Nat) (bytes : List UInt8) :
    (empty limit).push bytes true = (verdict limit bytes, empty limit) := by
  have hpushed := push_ofBytes_last limit [] bytes
  rwa [ofBytes_nil, List.nil_append] at hpushed

@[simp] theorem gathered_part (history : List Step) (fragment : List UInt8) :
    gathered (history ++ [.push fragment false]) = gathered history ++ fragment := by
  unfold gathered
  rw [List.rtakeWhile_concat_pos _ _ _ rfl, List.flatMap_append]
  simp [Step.fragment]

@[simp] theorem gathered_last (history : List Step) (fragment : List UInt8) :
    gathered (history ++ [.push fragment true]) = [] := by
  unfold gathered
  rw [List.rtakeWhile_concat_neg _ _ _ (by simp [Step.isPart])]
  rfl

@[simp] theorem gathered_clear (history : List Step) : gathered (history ++ [.clear]) = [] := by
  unfold gathered
  rw [List.rtakeWhile_concat_neg _ _ _ (by simp [Step.isPart])]
  rfl

/-- Whatever happened, the assembly is the one of the bytes that were gathered. -/
theorem run_empty (limit : Nat) (history : List Step) :
    (empty limit).run history = ofBytes limit (gathered history) := by
  -- What counts is at the end of a history, so the induction takes steps off there.
  induction history using List.reverseRecOn with
  | nil => exact (ofBytes_nil limit).symm
  | append_singleton history step ih =>
      unfold run at ih ⊢
      rw [List.foldl_append, ih]
      cases step with
      | clear =>
          rw [gathered_clear, ofBytes_nil]
          rfl
      | push fragment last =>
          cases last with
          | false =>
              rw [gathered_part]
              exact congrArg Prod.snd (push_ofBytes_part limit (gathered history) fragment)
          | true =>
              rw [gathered_last, ofBytes_nil]
              exact congrArg Prod.snd (push_ofBytes_last limit (gathered history) fragment)

/-- A message that is given up as too large, then a fragment that ends inside a character. -/
def sampleHistory : List Step :=
  [.push [0x61, 0x62, 0x63] false, .push [0x64, 0x65] false, .push [] true,
   .push [0x61, 0xC3] false, .push [] false]

/-- The fragments that wait for the last one of their message: those that came since a message was
complete or given up. -/
def waiting (history : List Step) : List Step := history.rtakeWhile Step.isPart

theorem isPending_ofBytes (limit : Nat) (bytes : List UInt8) :
    (ofBytes limit bytes).isPending = true ↔ bytes ≠ [] := by
  simp [isPending, ofBytes, List.length_pos_iff]

/-- After any history, an assembly reports that fragments wait exactly when one of those that do is
not empty: it goes by the number of their bytes. So it reports them all the time that it discards a
message that is too large. -/
theorem isPending_iff_waiting (limit : Nat) (history : List Step) :
    let assembly := (empty limit).run history
    (assembly.isPending = true ↔ ∃ step ∈ waiting history, step.fragment ≠ []) ∧
    (assembly.overflowed = true → assembly.isPending = true) := by
  intro assembly
  have hstate : assembly = ofBytes limit (gathered history) := run_empty limit history
  rw [hstate, isPending_ofBytes]
  constructor
  · rw [gathered, ne_eq, List.flatMap_eq_nil_iff]
    simp [waiting]
  · intro hlarge hnone
    simp [ofBytes, hnone] at hlarge

/-- The message is too large, and its last fragment has not come. -/
theorem oversized_is_reported :
    let assembly := (empty 4).run
      [.push [0x61] true, .push [0x61, 0x62, 0x63] false, .push [0x64, 0x65] false, .push [] false]
    assembly.overflowed = true ∧ assembly.isPending = true :=
  ⟨by decide, (isPending_iff_waiting 4 _).2 (by decide)⟩

/-- An empty fragment waits, and the assembly reports none. -/
theorem emptyFragment_is_not_reported :
    waiting [.push [] false] = [.push [] false] ∧
      ((empty 1024).run [.push [] false]).isPending = false ∧
      ¬∀ (limit : Nat) (history : List Step),
        ((empty limit).run history).isPending = true ↔ waiting history ≠ [] := by
  have hwaits : waiting [.push [] false] = [.push [] false] := rfl
  have hunreported : ((empty 1024).run [.push [] false]).isPending = false := rfl
  refine ⟨hwaits, hunreported, fun hreported => ?_⟩
  have hpending := (hreported 1024 [.push [] false]).mpr (by simp [hwaits])
  rw [hunreported] at hpending
  cases hpending

end ChainRpc.Link.Assembly
