import LootScript.Log.Event

/-!
# Computations that report

A traced computation has the events that it reports and its result. The events of a computation
that fails are kept. What comes out never depends on the events: `result` takes sequences of
computations to sequences of results.
-/
namespace LootScript

structure Traced (α : Type) where
  events : List Event
  result : Except Failure α

namespace Traced

variable {α β : Type}

instance : Monad Traced where
  pure a := ⟨[], .ok a⟩
  bind x next := match x.result with
    | .error failure => ⟨x.events, .error failure⟩
    | .ok a => ⟨x.events ++ (next a).events, (next a).result⟩

def report (event : Event) : Traced Unit := ⟨[event], .ok ()⟩

def reportAll (events : List Event) : Traced Unit := ⟨events, .ok ()⟩

def ofExcept (result : Except Failure α) : Traced α := ⟨[], result⟩

def fail (failure : Failure) : Traced α := ⟨[], .error failure⟩

def mapFailure (wrap : Failure → Failure) (x : Traced α) : Traced α :=
  ⟨x.events, x.result.mapError wrap⟩

@[simp]
theorem result_pure (a : α) : (pure a : Traced α).result = .ok a := rfl

@[simp]
theorem result_bind (x : Traced α) (next : α → Traced β) :
    (x >>= next).result = x.result >>= fun a => (next a).result := by
  obtain ⟨events, result⟩ := x
  cases result <;> rfl

/-- What comes after a failure reports nothing. -/
theorem events_bind (x : Traced α) (next : α → Traced β) :
    (x >>= next).events = x.events ++ match x.result with
      | .ok a => (next a).events
      | .error _ => [] := by
  obtain ⟨events, result⟩ := x
  cases result with
  | error failure => exact (List.append_nil events).symm
  | ok a => rfl

@[simp]
theorem result_report (event : Event) : (report event).result = .ok () := rfl

@[simp]
theorem result_reportAll (events : List Event) : (reportAll events).result = .ok () := rfl

@[simp]
theorem result_ofExcept (result : Except Failure α) : (ofExcept result).result = result := rfl

@[simp]
theorem result_fail (failure : Failure) : (fail failure : Traced α).result = .error failure := rfl

@[simp]
theorem result_mapFailure (wrap : Failure → Failure) (x : Traced α) :
    (x.mapFailure wrap).result = x.result.mapError wrap := rfl

end Traced

end LootScript
