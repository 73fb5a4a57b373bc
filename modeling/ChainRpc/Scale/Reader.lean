import ChainRpc.Error

/-!
# Reading bytes

A cursor stands between the bytes already read and those still to come. A read either
moves the cursor past the bytes of its value or fails. A request for more bytes than
are left fails without moving the cursor, so position and remaining bytes always add up to
the length of the source.
-/

namespace ChainRpc.Scale

/-- A place in a byte string. -/
structure Cursor where
  /-- How many bytes have been read. -/
  position : Nat
  /-- The bytes still to come. -/
  rest : List UInt8
  deriving DecidableEq, Repr

namespace Cursor

/-- The start of a byte string. -/
def start (bytes : List UInt8) : Cursor := ⟨0, bytes⟩

/-- How many bytes are still to come. -/
def remaining (cursor : Cursor) : Nat := cursor.rest.length

/-- Whether a byte is still to come. -/
def hasNext (cursor : Cursor) : Bool := !cursor.rest.isEmpty

end Cursor

/-- A read from a cursor. The cursor is left where the read ended, also when it failed. -/
abbrev Reader (α : Type) := EStateM Error Cursor α

/-- The first `n` members and the others, when there are so many. -/
def splitExact {α : Type} : Nat → List α → Option (List α × List α)
  | 0, members => some ([], members)
  | _ + 1, [] => none
  | n + 1, a :: members =>
      match splitExact n members with
      | some (front, back) => some (a :: front, back)
      | none => none

/-- A split gives back the list, and its first part has the wanted length. -/
theorem splitExact_eq_some_iff {α : Type} {n : Nat} {members front back : List α} :
    splitExact n members = some (front, back) ↔ members = front ++ back ∧ front.length = n := by
  induction n generalizing members front with
  | zero =>
      simp only [splitExact, Option.some.injEq, Prod.mk.injEq, List.length_eq_zero_iff]
      constructor
      · rintro ⟨rfl, rfl⟩; simp
      · rintro ⟨rfl, rfl⟩; simp
  | succ n ih =>
      cases members with
      | nil =>
          simp only [splitExact, reduceCtorEq, false_iff, not_and]
          rintro h hlength
          cases front <;> simp_all
      | cons a members =>
          cases front with
          | nil =>
              simp only [splitExact, List.length_nil, Nat.zero_ne_add_one, and_false, iff_false]
              split <;> simp
          | cons b front =>
              have h := @ih members front
              simp only [splitExact, List.cons_append, List.cons.injEq, List.length_cons,
                Nat.add_right_cancel_iff]
              split
              · rename_i f k hsplit
                simp only [Option.some.injEq, Prod.mk.injEq, List.cons.injEq]
                rw [hsplit] at h
                simp only [Option.some.injEq, Prod.mk.injEq] at h
                grind
              · rename_i hsplit
                rw [hsplit] at h
                simp only [reduceCtorEq, false_iff] at h
                grind

namespace Reader

/-- Fails and leaves the cursor where it is. -/
def fail {α : Type} (error : Error) : Reader α := fun cursor => .error error cursor

/-- The next `n` bytes. -/
def bytes (n : Nat) : Reader (List UInt8) := fun cursor =>
  match splitExact n cursor.rest with
  | some (front, back) => .ok front ⟨cursor.position + n, back⟩
  | none => .error (.malformed (.short n cursor.position cursor.remaining)) cursor

/-- The next byte. -/
def byte : Reader UInt8 := fun cursor =>
  match cursor.rest with
  | first :: rest => .ok first ⟨cursor.position + 1, rest⟩
  | [] => .error (.malformed (.short 1 cursor.position cursor.remaining)) cursor

/-- The same read a number of times, one after the other. -/
def repeated {α : Type} : Nat → Reader α → Reader (List α)
  | 0, _ => pure []
  | n + 1, item => do
      let first ← item
      let rest ← repeated n item
      pure (first :: rest)

end Reader

end ChainRpc.Scale
