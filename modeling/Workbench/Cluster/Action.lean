import Workbench.Cluster.Call

/-!
# Programs that talk to a cluster

An `Action` is a program that calls a cluster, waits, and ends with a value or in trouble. It is a
tree: after each call or wait it goes on with the answer. What the calls do is said apart from it, by
a `Host`.

* `Action`, with `bind` and `rescue`: programs, one after the other, and one in case of trouble; it
  is a lawful monad;
* `Action.get`, `Action.find?`, `Action.create` and the like: programs of a single call;
* `Action.retrying`: a program tried again after waits;
* `Host`, `Action.run`: what calls and waits do to a state, and the run of a program;
* `run_bind`, `run_rescue`: a run of a composed program is composed of runs.
-/

namespace Workbench

/-- A program that calls a cluster and waits. Waits are in milliseconds. -/
inductive Action (α : Type) where
  | done (value : α)
  | fail (cause : Trouble)
  | call (request : Call) (next : Except Trouble Doc → Action α)
  | wait (ms : Nat) (next : Except Trouble Unit → Action α)

namespace Action

variable {α β γ : Type}

/-- A program, and one that goes on with its value. -/
def bind (a : Action α) (f : α → Action β) : Action β :=
  match a with
  | done v => f v
  | fail t => fail t
  | call c next => call c fun r => bind (next r) f
  | wait ms next => wait ms fun r => bind (next r) f

/-- A program, and one that takes over when it ends in trouble. -/
def rescue (a : Action α) (f : Trouble → Action α) : Action α :=
  match a with
  | done v => done v
  | fail t => f t
  | call c next => call c fun r => rescue (next r) f
  | wait ms next => wait ms fun r => rescue (next r) f

instance : Monad Action where
  pure := done
  bind := bind

theorem bind_done : ∀ a : Action α, bind a done = a
  | done _ => rfl
  | fail _ => rfl
  | call c next => congrArg (call c) (funext fun r => bind_done (next r))
  | wait ms next => congrArg (wait ms) (funext fun r => bind_done (next r))

theorem bind_assoc (f : α → Action β) (g : β → Action γ) :
    ∀ a : Action α, bind (bind a f) g = bind a fun v => bind (f v) g
  | done _ => rfl
  | fail _ => rfl
  | call c next => congrArg (call c) (funext fun r => bind_assoc f g (next r))
  | wait ms next => congrArg (wait ms) (funext fun r => bind_assoc f g (next r))

instance : LawfulMonad Action :=
  .mk' Action bind_done (fun _ _ => rfl) fun a f g => bind_assoc f g a

instance : MonadExceptOf Trouble Action where
  throw := fail
  tryCatch := rescue

/-- A program that is finished at once. -/
def ofExcept : Except Trouble α → Action α
  | .ok v => done v
  | .error t => fail t

instance : MonadLift (Except Trouble) Action := ⟨ofExcept⟩

instance : MonadLift (Except Fault) Action := ⟨fun r => ofExcept (r.mapError .fault)⟩

/-! ## Single calls -/

/-- One call. -/
def perform (c : Call) : Action Doc := call c ofExcept

/-- An object; it has to be there. -/
def get (address : Address) : Action Doc := perform (.get address)

/-- The objects of a kind in a namespace. -/
def list (kind ns : Doc) : Action Doc := perform (.list kind ns)

/-- A new object. -/
def create (object : Doc) : Action Unit := discard (perform (.create object))

/-- An object written over. -/
def update (object : Doc) : Action Unit := discard (perform (.update object))

/-- An object merged with a patch. -/
def patch (address : Address) (patch : Doc) : Action Unit := discard (perform (.patch address patch))

/-- An object removed. -/
def delete (address : Address) : Action Unit := discard (perform (.delete address))

/-- A wait. -/
def pause (ms : Nat) : Action Unit := wait ms ofExcept

/-! ## Programs that expect some trouble -/

/-- `other` when the program ends in trouble that `expected` holds of. -/
def except (a : Action α) (expected : Trouble → Bool) (other : Action α) : Action α :=
  rescue a fun t => if expected t then other else fail t

/-- An object, if it is there. -/
def find? (address : Address) : Action (Option Doc) :=
  except (some <$> get address) Trouble.isNotFound (pure none)

/-- An object is there. -/
def exists? (address : Address) : Action Bool :=
  except (do discard (get address); return true) Trouble.isNotFound (pure false)

/-- A new object, unless somebody else has made it. Says whether this program did. -/
def createUnlessThere (object : Doc) : Action Bool :=
  except (do create object; return true) Trouble.isConflict (pure false)

/-- A program, tried again after each of some waits for as long as it ends in trouble that `again`
holds of. The last try counts, and so does trouble in a wait. -/
def retrying (again : Trouble → Bool) (body : Action α) : (waits : List Nat) → Action α
  | [] => body
  | ms :: waits => rescue body fun t =>
    if again t then bind (pause ms) fun _ => retrying again body waits else fail t

/-- The waits between two writes that met a conflict. -/
def conflictWaits : List Nat := [10, 10, 10, 10]

/-- A program that reads an object and writes it back, tried again on conflicts. -/
def retryingOnConflict (body : Action α) : Action α :=
  retrying Trouble.isConflict body conflictWaits

end Action

/-! ## Runs -/

/-- What calls and waits do to a state. -/
structure Host (σ : Type) where
  serve : Call → σ → Except Trouble Doc × σ
  pause : Nat → σ → Except Trouble Unit × σ

namespace Action

variable {α β σ : Type}

/-- The run of a program from a state: how it ends, and the state then. -/
def run (h : Host σ) : Action α → σ → Except Trouble α × σ
  | done v, s => (.ok v, s)
  | fail t, s => (.error t, s)
  | call c next, s =>
    let (r, s) := h.serve c s
    run h (next r) s
  | wait ms next, s =>
    let (r, s) := h.pause ms s
    run h (next r) s

/-- A run of two programs is a run of the first, and of the second from where it ends. -/
theorem run_bind (h : Host σ) (f : α → Action β) : ∀ (a : Action α) (s : σ),
    run h (bind a f) s =
      match run h a s with
      | (.ok v, s) => run h (f v) s
      | (.error t, s) => (.error t, s)
  | done _, _ => rfl
  | fail _, _ => rfl
  | call c next, s => run_bind h f (next (h.serve c s).1) (h.serve c s).2
  | wait ms next, s => run_bind h f (next (h.pause ms s).1) (h.pause ms s).2

/-- The program that takes over runs from where the first one ended in trouble. -/
theorem run_rescue (h : Host σ) (f : Trouble → Action α) : ∀ (a : Action α) (s : σ),
    run h (rescue a f) s =
      match run h a s with
      | (.ok v, s) => (.ok v, s)
      | (.error t, s) => run h (f t) s
  | done _, _ => rfl
  | fail _, _ => rfl
  | call c next, s => run_rescue h f (next (h.serve c s).1) (h.serve c s).2
  | wait ms next, s => run_rescue h f (next (h.pause ms s).1) (h.pause ms s).2

end Action

end Workbench
