import CanaryGate.Proofs.Run.Frame
import CanaryGate.Proofs.Run.History

/-! # The store between runs

Runs, updates and resets close every transaction that they open, and put objects only where the store keeps
its namespaces. So a store that started empty is orderly after every history, also where a run or a call
broke off or could not be written.
-/

namespace CanaryGate

open Attempt

variable {σ α : Type} {depth : Nat}

theorem World.orderly_onStore {a : Attempt Store α} (h : Keeps (Store.Orderly depth) a) :
    Keeps (fun w => w.store.Orderly depth) (World.onStore a : Attempt (World σ) α) := fun w => h w.store

namespace Rollback

theorem orderly_save (state : RollbackState) :
    Keeps (fun w => w.store.Orderly depth) (save state : Attempt (World σ) Unit) :=
  (World.orderly_onStore (Store.orderly_set _ _ _ _)).bind fun _ => fun _ h => h

theorem orderly_reset : Keeps (fun w => w.store.Orderly depth) (reset : Attempt (World σ) RollbackState) := by
  have body : Keeps (fun w => w.store.Orderly (depth + 1)) (load >>= fun _ => save .clear : Attempt (World σ) Unit) :=
    (leaves_load.keeps _).bind fun _ => orderly_save .clear
  exact (Store.orderly_transaction World.lawful_storePart body).bind fun _ => .pure _

theorem orderly_update (config : CanaryConfig) (runId recordedAt : String) (sample : Option RunSample) :
    Keeps (fun w => w.store.Orderly depth)
      (update config runId recordedAt sample : Attempt (World σ) RollbackUpdate) := by
  have body : Keeps (fun w : World σ => w.store.Orderly (depth + 1)) (load >>= judge config runId recordedAt sample) :=
    (leaves_load.keeps _).bind fun state => (orderly_save _).bind fun _ => .pure _
  rw [update_eq]
  exact (Store.orderly_transaction World.lawful_storePart body).bind fun found => (leaves_announce found).keeps _

end Rollback

namespace Run

/-- No stage of a run leaves a transaction open, or puts anything but an object in the place of a namespace. -/
theorem preserves_orderly (p : Plan σ) : Preserves p (Store.Orderly depth) where
  opening :=
    .bind (.bind (World.orderly_onStore (Store.orderly_nextSequence _ _)) fun _ => .lift _) fun _ =>
      ((leaves_baselineResult _ _).keeps _).bind fun _ => .pure _
  resetting := .ite (Rollback.orderly_reset.bind fun _ => .pure _) (.pure _)
  shadowing := fun _ _ _ _ => Shadow.keeps_run
    (fun _ => (World.orderly_onStore (Store.orderly_putAndPrune _ _ _ _ _)).bind fun _ => fun _ h => h) _ _ _ _ _
  crossing := fun _ _ => AltShadow.keeps_run
    (fun _ => World.orderly_onStore (Store.orderly_putAndPrune _ _ _ _ _)) _ _ _ _ _ _ _
  latching := fun _ _ _ => .ite (Rollback.orderly_update _ _ _ _) ((leaves_untouched _ _).keeps _)
  recording := fun _ _ _ =>
    .ite ((World.orderly_onStore (Store.orderly_putAndPrune _ _ _ _ _)).bind fun _ => .pure _) (.pure _)

end Run

theorem Event.orderly_leave {w : World σ} (orderly : w.store.Orderly depth) (event : Event σ) :
    (event.leave w).store.Orderly depth := by
  cases event with
  | run plan => exact (Run.preserves_orderly plan).attempt w orderly
  | call c =>
      cases c with
      | update config runId recordedAt sample => exact Rollback.orderly_update config runId recordedAt sample w orderly
      | reset => exact Rollback.orderly_reset w orderly

theorem World.orderly_after {w : World σ} (orderly : w.store.Orderly depth) (events : List (Event σ)) :
    (w.after events).store.Orderly depth := by
  induction events using List.reverseRecOn with
  | nil => exact orderly
  | append_singleton events event ih =>
      rw [after_snoc]
      exact Event.orderly_leave ih event

end CanaryGate
