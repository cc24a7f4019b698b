import SenderPolicy.Address.Printer

/-!
# Runs

A computation that asks the name service: its result, and the questions it asked on the way. A run that fails asks
nothing more.

- `result_bind`, `queries_bind`: the result and the questions of one run after another;
- `Run` is a lawful monad.
-/

namespace SenderPolicy

/-- A question to the name service. -/
inductive Query where
  /-- The texts at a name. -/
  | txt (name : String)
  /-- The addresses of a name. -/
  | ip (name : String)
  /-- The mail exchanges of a name. -/
  | mx (name : String)
  /-- The names of an address. -/
  | ptr (address : Address)
  deriving DecidableEq, Repr

namespace Query

/-- The name asked for; of an address, its text. -/
def subject : Query → String
  | txt name | ip name | mx name => name
  | ptr address => address.text

/-- The kind of the question and what it asks for. -/
def text : Query → String
  | txt name => "TXT " ++ name
  | ip name => "IP " ++ name
  | mx name => "MX " ++ name
  | ptr address => "PTR " ++ address.text

end Query

/-- The result of a computation and the questions it asked, in their order. -/
@[ext]
structure Run (ε α : Type) where
  result : Except ε α
  queries : List Query

namespace Run

variable {ε δ α β γ : Type}

/-- A result without questions. -/
def ofExcept (r : Except ε α) : Run ε α :=
  ⟨r, []⟩

/-- A run that fails at once. -/
def fail (e : ε) : Run ε α :=
  ofExcept (.error e)

/-- One question and what came of it. -/
def ask (q : Query) (r : Except ε α) : Run ε α :=
  ⟨r, [q]⟩

/-- One run after another, the second depending on the value of the first. -/
def bind (x : Run ε α) (f : α → Run ε β) : Run ε β :=
  match x.result with
  | .ok a => ⟨(f a).result, x.queries ++ (f a).queries⟩
  | .error e => ⟨.error e, x.queries⟩

/-- The run with its errors seen through `f`. -/
def mapError (f : ε → δ) (x : Run ε α) : Run δ α :=
  ⟨x.result.mapError f, x.queries⟩

instance : Monad (Run ε) where
  pure a := ofExcept (.ok a)
  bind := bind

/-! ## Laws -/

@[simp] theorem result_pure (a : α) : (pure a : Run ε α).result = .ok a := rfl

@[simp] theorem queries_pure (a : α) : (pure a : Run ε α).queries = [] := rfl

@[simp] theorem result_mapError (f : ε → δ) (x : Run ε α) : (x.mapError f).result = x.result.mapError f := rfl

@[simp] theorem queries_mapError (f : ε → δ) (x : Run ε α) : (x.mapError f).queries = x.queries := rfl

@[simp] theorem result_ofExcept (r : Except ε α) : (ofExcept r).result = r := rfl

@[simp] theorem queries_ofExcept (r : Except ε α) : (ofExcept r).queries = [] := rfl

/-- A run goes on from a value. -/
theorem bind_of_ok {x : Run ε α} {a : α} (h : x.result = .ok a) (f : α → Run ε β) :
    x >>= f = ⟨(f a).result, x.queries ++ (f a).queries⟩ := by
  show bind x f = _
  rw [bind, h]

/-- A run ends at an error. -/
theorem bind_of_error {x : Run ε α} {e : ε} (h : x.result = .error e) (f : α → Run ε β) :
    x >>= f = ⟨.error e, x.queries⟩ := by
  show bind x f = _
  rw [bind, h]

/-- The result of one run after another. -/
theorem result_bind (x : Run ε α) (f : α → Run ε β) : (x >>= f).result = x.result >>= fun a => (f a).result := by
  cases h : x.result with
  | ok a => rw [bind_of_ok h]; rfl
  | error e => rw [bind_of_error h]; rfl

/-- The questions of one run after another. -/
theorem queries_bind (x : Run ε α) (f : α → Run ε β) :
    (x >>= f).queries = x.queries ++ match x.result with
      | .ok a => (f a).queries
      | .error _ => [] := by
  cases h : x.result with
  | ok a => rw [bind_of_ok h]
  | error e => rw [bind_of_error h]; simp

/-- A run of which only the value is used further. -/
theorem bind_pure_eq (x : Run ε α) (f : α → β) : (x >>= fun a => pure (f a)) = ⟨x.result.map f, x.queries⟩ := by
  cases h : x.result with
  | error e => rw [bind_of_error h]; rfl
  | ok a => rw [bind_of_ok h, queries_pure, List.append_nil]; rfl

/-- A run that goes on with its value alone is itself. -/
theorem map_id (x : Run ε α) : id <$> x = x := by
  show bind x _ = x
  obtain ⟨r, qs⟩ := x
  cases r <;> simp [bind, ofExcept]

/-- Going on from a value that needs no question. -/
theorem pure_bind (a : α) (f : α → Run ε β) : pure a >>= f = f a := by
  rw [bind_of_ok (result_pure a)]
  simp

/-- Three runs, one after another. -/
theorem bind_assoc (x : Run ε α) (f : α → Run ε β) (g : β → Run ε γ) :
    x >>= f >>= g = x >>= fun a => f a >>= g := by
  cases h : x.result with
  | error e => rw [bind_of_error h, bind_of_error h, bind_of_error rfl]
  | ok a =>
    rw [bind_of_ok h, bind_of_ok h]
    cases h' : (f a).result with
    | error e => rw [bind_of_error (e := e) rfl, bind_of_error h']
    | ok b => rw [bind_of_ok (a := b) rfl, bind_of_ok h', List.append_assoc]

/-- Errors are seen through a function in one run after another. -/
theorem mapError_bind (f : ε → δ) (x : Run ε α) (g : α → Run ε β) :
    (x >>= g).mapError f = x.mapError f >>= fun a => (g a).mapError f := by
  cases h : x.result with
  | error e =>
    have hf : (x.mapError f).result = .error (f e) := by rw [result_mapError, h]; rfl
    rw [bind_of_error h, bind_of_error hf]
    rfl
  | ok a =>
    have hf : (x.mapError f).result = .ok a := by rw [result_mapError, h]; rfl
    rw [bind_of_ok h, bind_of_ok hf]
    rfl

instance : LawfulMonad (Run ε) :=
  LawfulMonad.mk' _ map_id pure_bind bind_assoc

end Run

end SenderPolicy
