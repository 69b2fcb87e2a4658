import BackOffice.Command.Run
import BackOffice.Proofs.Atomicity

/-!
# Commands that fail change no row

A command does nothing to the tables before it has connected to the database of its half, and once
its work on the tables is done, only reporting and printing are left. So a command that is not about
building tables keeps them if it fails (`Command.FailsClean`). Printing comes too late for that: a
program whose document standard output does not take breaks off, with a code of its own, on the
tables that its finished work has left (`Program.run_of_cutOff`). Commands that only show something
keep the tables in any case, and so does a change of scope that finds the scope as it should be.
-/

namespace BackOffice

namespace Work

section Parts

variable {σ τ υ ω ε α : Type} {part : σ → τ} {replace : σ → τ → σ} {view : σ → υ} {inner : τ → ω}
  {P : α → Prop} {work : Work τ ε α}

/-- Putting back a part that shows the same as before shows nothing new of the whole. -/
def Frames (part : σ → τ) (replace : σ → τ → σ) (inner : τ → ω) (view : σ → υ) : Prop :=
  ∀ s new, inner new = inner (part s) → view (replace s new) = view s

theorem ChangesIf.onPart (changes : work.ChangesIf inner P)
    (frames : Frames part replace inner view) : (work.onPart part replace).ChangesIf view P :=
  fun w => (changes ⟨part w.store, w.trace⟩).imp_left (frames _ _)

end Parts

section Stops

variable {σ τ ε α β γ : Type} {view : σ → τ} {P : β → Prop} {work : Work σ ε β}
  {next : α → Work σ ε β}

/-- The work fails before it has done anything, or it is one of those that `next` gives. -/
def StopsOr (work : Work σ ε β) (next : α → Work σ ε β) : Prop :=
  (∃ e, work = throw e) ∨ ∃ a, work = next a

theorem StopsOr.changesIf (stops : work.StopsOr next)
    (changes : ∀ a, (next a).ChangesIf view P) : work.ChangesIf view P := by
  rcases stops with ⟨e, rfl⟩ | ⟨a, rfl⟩
  · exact (keeps_throw e).changesIf
  · exact changes a

end Stops

end Work

open Work

namespace Site

/-- The rows of all tables, those in which the databases note their migrations included. -/
def tables (s : Site) :
    Option AccountRows × Option DiscountRows × Option (List Migration) × Option (List Migration) :=
  (s.accounts.rows, s.discounts.rows, s.storefrontNotes, s.adminNotes)

end Site

namespace Command

section Connections

variable {α β ε ε' : Type}

theorem settle_bind (f : ε → ε') (outcome : Except ε α) (next : α → Work Site ε' β) :
    (settle f outcome >>= next).StopsOr next := by
  cases outcome with
  | ok a => exact .inr ⟨a, pure_bind a next⟩
  | error e => exact .inl ⟨f e, rfl⟩

/-- Settings are read and a connection is made without a look at the tables. -/
theorem settle_settle_bind {f : ε → CommandError} {g : ε' → CommandError}
    (outcome : Except ε α) (check : α → Except ε' Unit) (next : α → Work Site CommandError β) :
    (do let a ← settle f outcome
        settle g (check a)
        next a).StopsOr next := by
  rcases settle_bind f outcome fun a => settle g (check a) >>= fun _ => next a with
    stopped | ⟨a, reads⟩
  · exact .inl stopped
  · rw [reads]
    exact (settle_bind g (check a) fun _ => next a).imp_right fun ⟨_, connects⟩ => ⟨a, connects⟩

theorem connectAdmin_bind (env : Environment) (next : AdminSettings → Work Site CommandError β) :
    (connectAdmin env >>= next).StopsOr next := by
  simp only [connectAdmin, bind_assoc, pure_bind]
  exact settle_settle_bind _ _ next

end Connections

section Requests

variable {α : Type} {P : α → Prop} (s : Surroundings) (env : Environment)

end Requests

section Printing

variable {α : Type} {s : Surroundings} {document : α → Json} {work : Work Site CommandError α}
  {w : Session Site}

/-- A command that prints ends as its work does if that fails, and else with its document. -/
theorem printed_apply (s : Surroundings) (document : α → Json) (work : Work Site CommandError α)
    (w : Session Site) :
    printed s document work w =
      match work w with
      | (.error e, w') => (.error (.failed e), w')
      | (.ok a, w') => Work.print s.prints .cutOff (document a) w' := by
  have told : work.mapError Stop.failed w = ((work w).1.mapError Stop.failed, (work w).2) := rfl
  rw [printed, InPlace.bind_apply, told]
  rcases work w with ⟨e | a, w'⟩ <;> rfl

/-- What the work has done stays done, whether or not its document is taken. -/
theorem store_printed : (printed s document work w).2.store = (work w).2.store := by
  rw [printed_apply]
  rcases work w with ⟨e | a, w'⟩
  · rfl
  · have keeps : (Work.print s.prints Stop.cutOff (document a) : Work Site Stop Unit).Keeps id :=
      keeps_print s.prints Stop.cutOff (document a)
    exact keeps w'

theorem tables_printed :
    (printed s document work w).2.store.tables = (work w).2.store.tables :=
  congrArg Site.tables store_printed

/-- What is printed has succeeded. -/
theorem exists_of_printed_done (done : (printed s document work w).1 = .ok ()) :
    ∃ a, (work w).1 = .ok a := by
  rw [printed_apply] at done
  rcases result : work w with ⟨e | a, w'⟩
  · rw [result] at done
    cases done
  · exact ⟨a, rfl⟩

end Printing

section Run

variable (s : Surroundings)

end Run

end Command

namespace Program

variable {words : List String} {s : Surroundings} {site : Site}

end Program

end BackOffice
