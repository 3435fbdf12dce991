import StoreGraph.Proofs.Enumeration
import StoreGraph.Storage.Redundant

/-! # A visitor that is called once for each key

A redundant store hands the stores below a visitor of its own. It asks the dedup about every key,
passes over those that were saved, and saves and shows the others. Its second state tells whether it
failed, be it with the failure of the dedup or with that of the visitor it stands for.
-/

namespace StoreGraph

open Storage

variable {τ : Type} {visit : Bytes → VisitM τ Unit} {offload : Storage} {dedup : DedupScheme}

/-- What the visitor does with one key, whatever the dedup is. -/
theorem run_visitOnce (offload : Storage) (dedup : DedupScheme) (visit : Bytes → VisitM τ Unit)
    (key : Bytes) (w : World) (t : τ) (flag : Bool) :
    (visitOnce offload dedup visit key).run (w, t, flag) =
      match (dedup.isSaved offload key).run w with
      | .ok true w => .ok () (w, t, false)
      | .error e w => .error e (w, t, true)
      | .ok false w =>
        match (dedup.save offload key).run w with
        | .error e w => .error e (w, t, true)
        | .ok _ w =>
          match (visit key).run (w, t) with
          | .ok _ s => .ok () (s.1, s.2, false)
          | .error e s => .error e (s.1, s.2, true) := by
  simp only [visitOnce, EStateM.run_bind, run_attempt, StoreM.run_visiting]
  cases (dedup.isSaved offload key).run w with
  | error e w => rfl
  | ok saved w =>
    cases saved with
    | true => rfl
    | false =>
      simp only [Bool.false_eq_true, if_false, EStateM.run_bind, StoreM.run_visiting]
      cases (dedup.save offload key).run w with
      | error e w => rfl
      | ok _ w =>
        simp only [VisitM.run_besides]
        cases (visit key).run (w, t) with
        | ok _ s => rfl
        | error e s => rfl

/-- What may come of one key: the visitor is called with it or it is not, and whatever fails is the
    failure. -/
inductive OnceEnds (visit : Bytes → VisitM τ Unit) (key : Bytes) (t : τ) :
    EStateM.Result Error (World × τ × Bool) Unit → Prop where
  | passed {w} : OnceEnds visit key t (.ok () (w, t, false))
  | shown {w s} (called : (visit key).run (w, t) = .ok () s) :
      OnceEnds visit key t (.ok () (s.1, s.2, false))
  | stopped {w s e} (called : (visit key).run (w, t) = .error e s) :
      OnceEnds visit key t (.error e (s.1, s.2, true))
  /-- The dedup failed. -/
  | failed {w e} : OnceEnds visit key t (.error e (w, t, true))

theorem onceEnds (offload : Storage) (dedup : DedupScheme) (visit : Bytes → VisitM τ Unit)
    (key : Bytes) (w : World) (t : τ) (flag : Bool) :
    OnceEnds visit key t ((visitOnce offload dedup visit key).run (w, t, flag)) := by
  rw [run_visitOnce]
  cases (dedup.isSaved offload key).run w with
  | error e w => exact .failed
  | ok saved w =>
    cases saved with
    | true => exact .passed
    | false =>
      dsimp only
      cases (dedup.save offload key).run w with
      | error e w => exact .failed
      | ok _ w =>
        dsimp only
        cases called : (visit key).run (w, t) with
        | error e s => exact .stopped called
        | ok _ s => exact .shown called

/-- While a store below shows its keys, the visitor is called with some of them. It is not called
    any more once the enumeration was stopped, with its own failure or with one of the dedup, and
    the second state tells so. -/
theorem Shows.through_once {below : World → World → Prop} {keys : List Bytes} {ending : Ending}
    {w : World} {t : τ} {stop : World × τ × Bool}
    (course : Shows below (visitOnce offload dedup visit) (w, t, false) keys ending stop) :
    ∃ shown inner, Shows (fun _ _ => True) visit (w, t) shown inner (stop.1, stop.2.1) ∧
      stop.2.2 = ending.stoppedWith?.isSome ∧
      (∀ outcome, ending = .finished outcome → inner = .finished outcome) ∧
      ∀ e, ending = .stopped e → inner = .stopped e ∨ inner = .finished (.error e) := by
  generalize begins : (w, t, false) = start at course
  induction course generalizing w t with
  | finish outcome quiet =>
    cases begins
    exact ⟨[], .finished outcome, .finish outcome trivial, rfl, fun _ same => same, nofun⟩
  | @shown w₀ w₁ u key s keys ending stop quiet call rest ih =>
    cases begins
    have ends := onceEnds offload dedup visit key w₁ t false
    rw [call] at ends
    cases ends with
    | passed =>
      obtain ⟨shown, inner, shows, further⟩ := ih rfl
      exact ⟨shown, inner, shows.prepend (fun _ _ _ _ _ => trivial) trivial, further⟩
    | shown called =>
      obtain ⟨shown, inner, shows, further⟩ := ih rfl
      exact ⟨key :: shown, inner, .shown trivial called shows, further⟩
  | @stop w₀ w₁ w₂ w₃ u u' key e quiet call after =>
    cases begins
    have ends := onceEnds offload dedup visit key w₁ t false
    rw [call] at ends
    cases ends with
    | stopped called =>
      refine ⟨[key], .stopped e, .stop trivial called trivial, rfl, nofun, fun e' same => ?_⟩
      cases same
      exact .inl rfl
    | failed =>
      refine ⟨[], .finished (.error e), .finish _ trivial, rfl, nofun, fun e' same => ?_⟩
      cases same
      exact .inr rfl

end StoreGraph
