import CloudioOrchestrator.Interaction.Pool
import Mathlib.Data.List.Induction

/-! # A service that another one stands for

A service refines another where each of its operations is answered as an operation
of the other may be, and its events are events of the other. What is known of
every run of the other may be used on the way.
-/

namespace Interaction

variable {S : Signature} {ι α : Type} {V W : Service S ι} {program : ι → Prog S α}

/-- What one service does in one step, the other one may do. -/
structure Refines (V W : Service S ι) where
  mirrors : V.World → W.World → Prop
  /-- The events of the other service that stand for events. -/
  permits : W.Outside → Prop
  /-- What is known of the worlds that the other service reaches. -/
  known : W.World → Prop
  serve : ∀ client choice op {world twin}, mirrors world twin → known twin →
    ∃ picked, (W.serve client picked op twin).1 = (V.serve client choice op world).1 ∧
      (known (W.serve client picked op twin).2 →
        mirrors (V.serve client choice op world).2 (W.serve client picked op twin).2)
  outside : ∀ event {world twin}, mirrors world twin → known twin →
    ∃ other, permits other ∧
      (known (W.outside other twin) → mirrors (V.outside event world) (W.outside other twin))

namespace Refines

variable (R : Refines V W)

/-- The events of the moves stand for events. -/
def Permitted (moves : List (Move W)) : Prop :=
  ∀ event, .outside event ∈ moves → R.permits event

variable {R}

theorem Permitted.append {moves : List (Move W)} (hmoves : R.Permitted moves) {move : Move W}
    (hmove : ∀ event, move = .outside event → R.permits event) :
    R.Permitted (moves ++ [move]) := by
  intro event hevent
  cases List.mem_append.mp hevent with
  | inl hold => exact hmoves event hold
  | inr hnew => exact hmove event (List.mem_singleton.mp hnew).symm

/-- Every run of a service is a run of the one it refines. -/
theorem run {world : V.World} {twin : W.World} (hstart : R.mirrors world twin)
    (hknown : ∀ others, R.Permitted others →
      R.known (Pool.run program others ⟨twin, []⟩).world)
    (moves : List (Move V)) :
    ∃ others, R.Permitted others ∧
      (Pool.run program others ⟨twin, []⟩).threads =
        (Pool.run program moves ⟨world, []⟩).threads ∧
      R.mirrors (Pool.run program moves ⟨world, []⟩).world
        (Pool.run program others ⟨twin, []⟩).world := by
  induction moves using List.reverseRecOn with
  | nil =>
      refine ⟨[], ?_, rfl, hstart⟩
      intro event hevent
      cases hevent
  | append_singleton moves move ih =>
      obtain ⟨others, hpermitted, hthreads, hmirrors⟩ := ih
      have hnow := hknown others hpermitted
      simp only [Pool.run_append, Pool.run_cons, Pool.run_nil]
      -- the run of the other service, with one more move, is known of as a whole
      have hextend : ∀ other : Move W, (∀ event, other = .outside event → R.permits event) →
          R.known ((Pool.run program others ⟨twin, []⟩).step program other).world := by
        intro other hother
        have hlater := hknown (others ++ [other]) (hpermitted.append hother)
        rwa [Pool.run_append, Pool.run_cons, Pool.run_nil] at hlater
      generalize Pool.run program moves ⟨world, []⟩ = pool at hthreads hmirrors ⊢
      cases move with
      | start subject =>
          refine ⟨others ++ [.start subject], hpermitted.append ?_, ?_, ?_⟩
          · intro event hevent
            cases hevent
          · simp only [Pool.run_append, Pool.run_cons, Pool.run_nil, Pool.step, hthreads]
          · rw [Pool.run_append]
            exact hmirrors
      | advance serial choice =>
          cases hthread : pool.threads[serial]? with
          | none =>
              refine ⟨others, hpermitted, ?_, ?_⟩
              · simp only [Pool.step, hthread, hthreads]
              · simpa only [Pool.step, hthread] using hmirrors
          | some thread =>
              obtain ⟨subject, body⟩ := thread
              cases body with
              | ret value =>
                  refine ⟨others, hpermitted, ?_, ?_⟩
                  · simp only [Pool.step, hthread, hthreads]
                  · simpa only [Pool.step, hthread] using hmirrors
              | call op next =>
                  obtain ⟨picked, hanswer, hafter⟩ :=
                    R.serve ⟨subject, serial⟩ choice op hmirrors hnow
                  have hlater :=
                    hextend (.advance serial picked) fun event hevent => by cases hevent
                  refine ⟨others ++ [.advance serial picked], hpermitted.append ?_, ?_, ?_⟩
                  · intro event hevent
                    cases hevent
                  · simp only [Pool.run_append, Pool.run_cons, Pool.run_nil, Pool.step, hthreads,
                      hthread, hanswer]
                  · simp only [Pool.step, hthreads, hthread] at hlater
                    simpa only [Pool.run_append, Pool.run_cons, Pool.run_nil, Pool.step, hthreads,
                      hthread] using hafter hlater
      | outside event =>
          obtain ⟨other, hother, hafter⟩ := R.outside event hmirrors hnow
          have hpermits : ∀ named, Move.outside other = .outside named → R.permits named := by
            intro named hnamed
            cases hnamed
            exact hother
          refine ⟨others ++ [.outside other], hpermitted.append hpermits, ?_, ?_⟩
          · simp only [Pool.run_append, Pool.run_cons, Pool.run_nil, Pool.step, hthreads]
          · rw [Pool.run_append]
            exact hafter (hextend _ hpermits)

end Refines

end Interaction
