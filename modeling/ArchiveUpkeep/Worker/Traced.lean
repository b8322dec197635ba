import ArchiveUpkeep.Worker.Event

/-! Computations that leave a trace: the queries they ask and the events they report, in order. The
trace is part of the result, so what a step asked and said can be reasoned about like what it
returned, and only the value decides how a computation goes on. -/
namespace ArchiveUpkeep

structure Traced (α : Type) where
  value : α
  queries : List Query := []
  events : List Event := []

namespace Traced

variable {α β : Type}

instance : Monad Traced where
  pure value := { value }
  map f x := { x with value := f x.value }
  bind first next :=
    let second := next first.value
    { value := second.value, queries := first.queries ++ second.queries,
      events := first.events ++ second.events }

@[simp] theorem pure_value (a : α) : (pure a : Traced α).value = a := rfl

@[simp] theorem pure_queries (a : α) : (pure a : Traced α).queries = [] := rfl

@[simp] theorem pure_events (a : α) : (pure a : Traced α).events = [] := rfl

@[simp] theorem bind_value (first : Traced α) (next : α → Traced β) :
    (first >>= next).value = (next first.value).value := rfl

@[simp] theorem bind_queries (first : Traced α) (next : α → Traced β) :
    (first >>= next).queries = first.queries ++ (next first.value).queries := rfl

@[simp] theorem bind_events (first : Traced α) (next : α → Traced β) :
    (first >>= next).events = first.events ++ (next first.value).events := rfl

@[simp] theorem map_value (f : α → β) (x : Traced α) : (f <$> x).value = f x.value := rfl

@[simp] theorem map_queries (f : α → β) (x : Traced α) : (f <$> x).queries = x.queries := rfl

@[simp] theorem map_events (f : α → β) (x : Traced α) : (f <$> x).events = x.events := rfl

instance : LawfulMonad Traced where
  map_const := rfl
  id_map _ := rfl
  seqLeft_eq _ _ := by simp [SeqLeft.seqLeft, Seq.seq, Functor.map]
  seqRight_eq _ _ := by simp [SeqRight.seqRight, Seq.seq, Functor.map]
  pure_seq _ _ := by simp [Seq.seq, pure, Functor.map]
  bind_pure_comp _ _ := by simp [bind, pure, Functor.map]
  bind_map _ _ := rfl
  pure_bind _ _ := by simp [bind, pure]
  bind_assoc _ _ _ := by simp [bind]

/-- Reports an event. -/
def note (event : Event) : Traced Unit := { value := (), events := [event] }

@[simp] theorem note_queries (event : Event) : (note event).queries = [] := rfl

@[simp] theorem note_events (event : Event) : (note event).events = [event] := rfl

end Traced

namespace Controller

/-- Asks a query and passes the answer on, be it an error. -/
def ask (controller : Controller) (query : Query) :
    Traced (Except ControllerError query.Answer) :=
  { value := controller.answer query, queries := [query] }

@[simp] theorem ask_value (controller : Controller) (query : Query) :
    (controller.ask query).value = controller.answer query := rfl

@[simp] theorem ask_queries (controller : Controller) (query : Query) :
    (controller.ask query).queries = [query] := rfl

@[simp] theorem ask_events (controller : Controller) (query : Query) :
    (controller.ask query).events = [] := rfl

end Controller

end ArchiveUpkeep
