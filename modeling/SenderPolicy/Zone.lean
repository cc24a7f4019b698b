import SenderPolicy.Resolver

/-!
# Zones

A name service held in memory: what is published at each name, and the questions it fails to answer. Names are compared
exactly; a name without an entry has an empty answer.

- `find_put`: an entry that is replaced is found, and no other entry changes.
-/

namespace SenderPolicy

/-- What is published under each key, the first entry of a key being the one that counts. -/
abbrev Entries (κ α : Type) : Type :=
  List (κ × List α)

namespace Entries

variable {κ α : Type} [DecidableEq κ]

/-- What is published under a key. -/
def find (es : Entries κ α) (k : κ) : List α :=
  (es.lookup k).getD []

/-- The entries with that of one key replaced. -/
def put (es : Entries κ α) (k : κ) (as : List α) : Entries κ α :=
  (k, as) :: es.filter (·.1 ≠ k)

/-- The entries of other keys stay when those of one key are removed. -/
theorem lookup_filter_ne {k l : κ} (h : l ≠ k) (es : Entries κ α) :
    (es.filter fun e => e.1 ≠ k).lookup l = es.lookup l := by
  induction es with
  | nil => rfl
  | cons e es ih =>
    obtain ⟨m, as⟩ := e
    by_cases hm : m = k
    · have hb : (l == m) = false := by simpa [hm] using h
      rw [List.filter_cons_of_neg (by simpa using hm), List.lookup_cons, hb]
      exact ih
    · rw [List.filter_cons_of_pos (by simpa using hm), List.lookup_cons, List.lookup_cons, ih]

/-- An entry that is replaced is found, and no other entry changes. -/
theorem find_put (es : Entries κ α) (k l : κ) (as : List α) :
    (es.put k as).find l = if l = k then as else es.find l := by
  by_cases h : l = k
  · rw [if_pos h, find, put, h, List.lookup_cons_self]
    rfl
  · have hb : (l == k) = false := by simpa using h
    rw [if_neg h, find, find, put, List.lookup_cons, hb]
    exact congrArg (Option.getD · []) (lookup_filter_ne h es)

end Entries

/-- How a name service fails to answer a question. -/
inductive Fault where
  /-- It gives no answer. -/
  | noAnswer (reason : String)
  /-- Its answer is not UTF-8. -/
  | notText (fault : Text.Utf8.Fault)
  /-- It cannot be set up. -/
  | setup (reason : String)
  deriving DecidableEq, Repr

/-- The error of a fault in the answer to a question. -/
def Fault.error (q : Query) : Fault → Error
  | noAnswer reason => .noAnswer q.subject reason
  | notText fault => .notText q.subject fault
  | setup reason => .setup reason

/-- A name service held in memory. -/
structure Zone where
  txt : Entries String String := []
  ip : Entries String Address := []
  mx : Entries String MailExchange := []
  ptr : Entries Address String := []
  /-- The faults, by the text of the question. -/
  faults : List (String × Fault) := []

namespace Zone

variable (z : Zone)

/-- The answer to a question, unless it meets a fault. -/
def answer {α : Type} (q : Query) (as : List α) : Except Error (List α) :=
  match z.faults.lookup q.text with
  | some f => .error (f.error q)
  | none => .ok as

/-- The answers of the zone. -/
def resolver : Resolver where
  txt name := z.answer (.txt name) (z.txt.find name)
  ip name := z.answer (.ip name) (z.ip.find name)
  mx name := z.answer (.mx name) (z.mx.find name)
  ptr address := z.answer (.ptr address) (z.ptr.find address)

/-- The zone with a fault in the answer to a question. -/
def fail (question : String) (f : Fault) : Zone :=
  { z with faults := (question, f) :: z.faults.filter (·.1 ≠ question) }

/-- Whether a question meets a fault. -/
def isFaulty (question : String) : Bool :=
  (z.faults.lookup question).isSome

/-- The zone without a fault in the answer to a question. -/
def heal (question : String) : Zone :=
  { z with faults := z.faults.filter (·.1 ≠ question) }

/-- How many policies can be nested without one being nested in itself. -/
def depth : Nat :=
  z.txt.length + 1

end Zone

end SenderPolicy
