import SymbolRules.Event

/-!
# Results with their reports

A computation that reports what it does returns its value together with the events, in order. Running one
after another appends their events.
-/

namespace SymbolRules

/-- A value and the events reported on the way to it. -/
structure Logged (α : Type) where
  value : α
  events : List Event

namespace Logged

variable {α β : Type}

/-- Reports one event. -/
def emit (e : Event) : Logged Unit := ⟨(), [e]⟩

/-- Reports events in order. -/
def emitAll (es : List Event) : Logged Unit := ⟨(), es⟩

instance : Monad Logged where
  pure a := ⟨a, []⟩
  bind x f :=
    let y := f x.value
    ⟨y.value, x.events ++ y.events⟩

@[simp] theorem value_pure (a : α) : (pure a : Logged α).value = a := rfl

@[simp] theorem events_pure (a : α) : (pure a : Logged α).events = [] := rfl

@[simp] theorem value_bind (x : Logged α) (f : α → Logged β) : (x >>= f).value = (f x.value).value := rfl

@[simp] theorem events_bind (x : Logged α) (f : α → Logged β) :
    (x >>= f).events = x.events ++ (f x.value).events := rfl

@[simp] theorem events_emit (e : Event) : (emit e).events = [e] := rfl

@[simp] theorem events_emitAll (es : List Event) : (emitAll es).events = es := rfl

@[ext] theorem ext {x y : Logged α} (hv : x.value = y.value) (he : x.events = y.events) : x = y := by
  cases x
  cases y
  simp_all

instance : LawfulMonad Logged := LawfulMonad.mk' _
  (fun x => ext rfl (List.append_nil x.events))
  (fun _ _ => rfl)
  (fun _ _ _ => ext rfl (List.append_assoc ..))

theorem value_mapM (f : α → Logged β) (xs : List α) : (xs.mapM f).value = xs.map fun x => (f x).value := by
  induction xs with
  | nil => rfl
  | cons x xs ih => rw [List.mapM_cons, value_bind, value_bind, value_pure, ih, List.map_cons]

theorem events_mapM (f : α → Logged β) (xs : List α) :
    (xs.mapM f).events = xs.flatMap fun x => (f x).events := by
  induction xs with
  | nil => rfl
  | cons x xs ih =>
    rw [List.mapM_cons, events_bind, events_bind, events_pure, List.append_nil, ih, List.flatMap_cons]

end Logged

end SymbolRules
