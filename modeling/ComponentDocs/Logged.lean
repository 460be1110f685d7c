/-!
# Results with a log

A result together with the events that were logged on the way to it, oldest first.  An event is
logged whether or not the computation around it succeeds, so failures are part of the value.
-/

namespace ComponentDocs

structure Logged (ε α : Type) where
  events : List ε
  value : α

namespace Logged

variable {ε α β : Type}

instance : Monad (Logged ε) where
  pure value := ⟨[], value⟩
  bind x f :=
    let y := f x.value
    ⟨x.events ++ y.events, y.value⟩

/-- Logs one event. -/
def log (event : ε) : Logged ε Unit :=
  ⟨[event], ()⟩

/-- Logs an event if `condition` holds. -/
def logIf (condition : Bool) (event : ε) : Logged ε Unit :=
  ⟨if condition then [event] else [], ()⟩

/-- The same result with every event changed by `f`. -/
def mapEvents {δ : Type} (f : ε → δ) (x : Logged ε α) : Logged δ α :=
  ⟨x.events.map f, x.value⟩

@[simp] theorem value_pure (a : α) : (pure a : Logged ε α).value = a :=
  rfl

@[simp] theorem value_bind (x : Logged ε α) (f : α → Logged ε β) :
    (x >>= f).value = (f x.value).value :=
  rfl

@[simp] theorem events_pure (a : α) : (pure a : Logged ε α).events = [] :=
  rfl

@[simp] theorem events_bind (x : Logged ε α) (f : α → Logged ε β) :
    (x >>= f).events = x.events ++ (f x.value).events :=
  rfl

/-- Events of a loop do not influence its result. -/
theorem value_foldlM (f : β → α → Logged ε β) (init : β) (items : List α) :
    (items.foldlM f init).value = items.foldl (fun b a => (f b a).value) init := by
  induction items generalizing init with
  | nil => rfl
  | cons item items ih => exact ih _

end Logged

end ComponentDocs
