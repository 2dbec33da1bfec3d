import Reftest.Fault
import Reftest.Run.Happening
import Reftest.World

/-!
Parts of a run.  A stage starts in a world and comes to a result or a fault; either way it tells
what happened and leaves a world behind.  Stages follow each other until one comes to a fault.
-/

namespace Reftest.Run

structure Attempt (α : Type) where
  result : Except Fault α
  world : World
  trace : Trace

def Stage (α : Type) := World → Attempt α

namespace Stage

def done (value : α) : Stage α :=
  fun world => ⟨.ok value, world, []⟩

def fail (fault : Fault) : Stage α :=
  fun world => ⟨.error fault, world, []⟩

def report (happening : Happening) : Stage Unit :=
  fun world => ⟨.ok (), world, [happening]⟩

def tell (level : Log.Level) (topic : Log.Topic) (message : String) : Stage Unit :=
  report (.event ⟨level, topic, message⟩)

def andThen (first : Stage α) (second : α → Stage β) : Stage β :=
  fun world =>
    let attempt := first world
    match attempt.result with
    | .error fault => ⟨.error fault, attempt.world, attempt.trace⟩
    | .ok value =>
      let next := second value attempt.world
      ⟨next.result, next.world, attempt.trace ++ next.trace⟩

instance : Monad Stage where
  pure := done
  bind := andThen

@[simp] theorem pure_apply (value : α) (world : World) :
    (pure value : Stage α) world = ⟨.ok value, world, []⟩ := rfl

@[simp] theorem fail_apply (fault : Fault) (world : World) :
    (fail fault : Stage α) world = ⟨.error fault, world, []⟩ := rfl

@[simp] theorem tell_apply (level : Log.Level) (topic : Log.Topic) (message : String)
    (world : World) :
    tell level topic message world = ⟨.ok (), world, [.event ⟨level, topic, message⟩]⟩ := rfl

theorem bind_apply (first : Stage α) (second : α → Stage β) (world : World) :
    (first >>= second) world =
      match (first world).result with
      | .error fault => ⟨.error fault, (first world).world, (first world).trace⟩
      | .ok value =>
        ⟨(second value (first world).world).result, (second value (first world).world).world,
          (first world).trace ++ (second value (first world).world).trace⟩ := rfl

end Stage

end Reftest.Run
