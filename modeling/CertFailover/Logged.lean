import CertFailover.Event

/-!
Values together with the events that were logged on the way to them. In sequence the events follow
each other in order.
-/

namespace CertFailover

structure Logged (α : Type) where
  value : α
  events : List Event

namespace Logged

variable {α β : Type}

def log (event : Event) : Logged Unit :=
  ⟨(), [event]⟩

instance : Monad Logged where
  pure value := ⟨value, []⟩
  bind first next := ⟨(next first.value).value, first.events ++ (next first.value).events⟩

instance : LawfulMonad Logged :=
  LawfulMonad.mk' Logged
    (by intro α computation; simp [Functor.map])
    (by intro α β value next; simp [Bind.bind, Pure.pure])
    (by intro α β γ first second third; simp [Bind.bind])

@[simp] theorem value_pure (value : α) : (pure value : Logged α).value = value := rfl

@[simp] theorem events_pure (value : α) : (pure value : Logged α).events = [] := rfl

@[simp] theorem value_bind (first : Logged α) (next : α → Logged β) :
    (first >>= next).value = (next first.value).value := rfl

@[simp] theorem events_bind (first : Logged α) (next : α → Logged β) :
    (first >>= next).events = first.events ++ (next first.value).events := rfl

@[simp] theorem value_map (change : α → β) (computation : Logged α) :
    (change <$> computation).value = change computation.value := rfl

@[simp] theorem events_map (change : α → β) (computation : Logged α) :
    (change <$> computation).events = computation.events := by
  simp [Functor.map]

@[simp] theorem value_log (event : Event) : (log event).value = () := rfl

@[simp] theorem events_log (event : Event) : (log event).events = [event] := rfl

end Logged

end CertFailover
