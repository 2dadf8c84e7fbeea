import CloudioOrchestrator.Interaction.Tracing
import CloudioOrchestrator.Interaction.Pool
import Mathlib.Data.List.Induction

/-! # Following one program of a pool

A program in flight that is safe up to a postcondition returns only where that
holds, whatever the others do meanwhile, as long as they keep it. Where it has come
to is what it makes of its answers. And what a pool does as a whole whose programs
perform some of the operations only.
-/

namespace Interaction

variable {S : Signature} {ι α : Type} {V : Service S ι} {program : ι → Prog S α}

/-- A program in flight stays as it is unless it is advanced. -/
theorem Pool.step_apart {pool : Pool V α} {move : Move V} {serial : Nat}
    (hlength : serial < pool.threads.length) (hother : ∀ choice, move ≠ .advance serial choice) :
    (pool.step program move).threads[serial]? = pool.threads[serial]? := by
  cases move with
  | start subject => exact List.getElem?_append_left hlength
  | advance advanced choice =>
      have hne : advanced ≠ serial := fun heq => hother choice (by rw [heq])
      simp only [step]
      split
      · exact List.getElem?_set_ne hne
      · rfl
  | outside event => rfl

namespace Discipline

variable {D : Discipline V} {absent : Client ι → V.World → Prop} {client : Client ι}

/-- A postcondition that nobody else's operations undo. -/
def Steady (D : Discipline V) (client : Client ι) (post : α → V.World → Prop) : Prop :=
  ∀ value world final, post value world → D.rely client world final → post value final

theorem Safe.of_steady {post : α → V.World → Prop} (hsteady : D.Steady client post)
    {body : Prog S α} {world later : V.World} (hsafe : D.Safe client post body world)
    (hrely : D.rely client world later) : D.Safe client post body later := by
  cases body with
  | ret value => exact hsteady value world later hsafe hrely
  | call op next => exact hsafe.stable hrely

/-- The program of a client, in flight and safe up to the postcondition. -/
def Follows (D : Discipline V) (client : Client ι) (post : α → V.World → Prop)
    (pool : Pool V α) : Prop :=
  ∃ body, pool.threads[client.serial]? = some (client.subject, body) ∧
    D.Safe client post body pool.world

theorem Follows.step (hD : D.Compatible program absent) {post : α → V.World → Prop}
    (hsteady : D.Steady client post) {pool : Pool V α} (hpool : D.Sound absent pool)
    (hfollows : D.Follows client post pool) (move : Move V) :
    D.Follows client post (pool.step program move) := by
  obtain ⟨body, hthread, hsafe⟩ := hfollows
  obtain ⟨hlength, -⟩ := List.getElem?_eq_some_iff.mp hthread
  have hrely := hpool.step_rely hD move client
  by_cases hown : ∃ choice, move = .advance client.serial choice
  · obtain ⟨choice, rfl⟩ := hown
    cases body with
    | ret value =>
        refine ⟨.ret value, ?_⟩
        simp only [Pool.step, hthread]
        exact ⟨trivial, hsafe⟩
    | call op next =>
        obtain ⟨-, -, hnext⟩ := hsafe pool.world (D.refl _ _) hpool.inv choice
        refine ⟨next (V.serve client choice op pool.world).1, ?_, ?_⟩
        · simp only [Pool.step, hthread]
          exact List.getElem?_set_self hlength
        · simp only [Pool.step, hthread]
          exact hnext
  · have hother : ∀ choice, move ≠ .advance client.serial choice :=
      fun choice heq => hown ⟨choice, heq⟩
    exact ⟨body, (Pool.step_apart hlength hother).trans hthread,
      hsafe.of_steady hsteady (hrely hother)⟩

/-- Followed to the end of a run, a program has returned with the postcondition, or
has not returned. -/
theorem Follows.run (hD : D.Compatible program absent) {post : α → V.World → Prop}
    (hsteady : D.Steady client post) {pool : Pool V α} (hpool : D.Sound absent pool)
    (hfollows : D.Follows client post pool) (moves : List (Move V)) :
    D.Follows client post (pool.run program moves) := by
  induction moves generalizing pool with
  | nil => exact hfollows
  | cons move moves ih => exact ih (hpool.step hD move) (hfollows.step hD hsteady hpool move)

theorem Follows.returned {post : α → V.World → Prop} {pool : Pool V α} {value : α}
    (hfollows : D.Follows client post pool)
    (hthread : pool.threads[client.serial]? = some (client.subject, .ret value)) :
    post value pool.world := by
  obtain ⟨body, hbody, hsafe⟩ := hfollows
  rw [hthread] at hbody
  cases hbody
  exact hsafe

end Discipline

/-- Every program of a run was started in it. -/
theorem Pool.exists_start {world : V.World} {moves : List (Move V)} {serial : Nat} {subject : ι}
    {body : Prog S α}
    (hthread : (Pool.run program moves ⟨world, []⟩).threads[serial]? = some (subject, body)) :
    ∃ first later, moves = first ++ .start subject :: later ∧
      (Pool.run program first ⟨world, []⟩).threads.length = serial := by
  induction moves using List.reverseRecOn generalizing body with
  | nil => cases hthread
  | append_singleton moves move ih =>
      have hgo : ∀ body, (Pool.run program moves ⟨world, []⟩).threads[serial]? =
          some (subject, body) → ∃ first later, moves ++ [move] = first ++ .start subject :: later ∧
            (Pool.run program first ⟨world, []⟩).threads.length = serial := by
        intro body hbefore
        obtain ⟨first, later, hsplit, hlength⟩ := ih hbefore
        exact ⟨first, later ++ [move], by rw [hsplit]; simp, hlength⟩
      rw [Pool.run_append, Pool.run_cons, Pool.run_nil] at hthread
      rcases Pool.step_thread hthread with
        ⟨hbefore, -⟩ | ⟨rfl, hlength, -⟩ | ⟨_, _, _, -, hbefore, -⟩
      · exact hgo body hbefore
      · exact ⟨moves, [], rfl, hlength⟩
      · exact hgo _ hbefore

/-! ## What a program makes of its answers -/

/-- Answered as in the trace, the program has come to this point. -/
inductive Prog.Leads (program : Prog S α) : Trace S → Prog S α → Prop
  | start : program.Leads [] program
  | answered {trace : Trace S} {op : S.Op} {next : S.Answer op → Prog S α} (answer : S.Answer op)
      (hleads : program.Leads trace (.call op next)) :
      program.Leads (⟨op, answer⟩ :: trace) (next answer)

namespace Prog.Leads

variable {trace : Trace S} {body : Prog S α}

/-- A program that has returned leads nowhere else. -/
theorem of_ret {value : α} (hleads : (Prog.ret value).Leads trace body) : body = .ret value := by
  induction hleads with
  | start => rfl
  | answered answer hleads ih => cases ih

/-- The first answer, and what the program makes of the others. -/
theorem of_call {op : S.Op} {next : S.Answer op → Prog S α}
    (hleads : (Prog.call op next).Leads trace body) :
    (trace = [] ∧ body = .call op next) ∨ ∃ answers answer, trace = answers ++ [⟨op, answer⟩] ∧
      (next answer).Leads answers body := by
  induction hleads with
  | start => exact .inl ⟨rfl, rfl⟩
  | answered answer hleads ih =>
      cases ih with
      | inl hfirst =>
          obtain ⟨rfl, hcall⟩ := hfirst
          cases hcall
          exact .inr ⟨[], answer, rfl, .start⟩
      | inr hlater =>
          obtain ⟨answers, first, rfl, hlater⟩ := hlater
          exact .inr ⟨⟨_, answer⟩ :: answers, first, rfl, .answered answer hlater⟩

end Prog.Leads

namespace Pool

/-- What the program with the serial is answered as a move is made. -/
def answered (serial : Nat) (pool : Pool V α) : Move V → Trace S
  | .advance advanced choice =>
      if advanced = serial then
        match pool.threads[advanced]? with
        | some (subject, .call op _) => [⟨op, (V.serve ⟨subject, advanced⟩ choice op pool.world).1⟩]
        | _ => []
      else []
  | _ => []

variable (program) in
/-- What it is answered in a run. -/
def answers (serial : Nat) : List (Move V) → Pool V α → Trace S
  | [], _ => []
  | move :: moves, pool =>
      answers serial moves (pool.step program move) ++ pool.answered serial move

theorem answers_concat (serial : Nat) (moves : List (Move V)) (move : Move V) (pool : Pool V α) :
    answers program serial (moves ++ [move]) pool =
      (run program moves pool).answered serial move ++ answers program serial moves pool := by
  induction moves generalizing pool with
  | nil => simp [answers]
  | cons first moves ih =>
      rw [List.cons_append, answers, ih, run_cons, answers, List.append_assoc]

/-- A program that is not there yet has been answered nothing. -/
theorem answers_absent {world : V.World} {moves : List (Move V)} {serial : Nat}
    (habsent : (run program moves ⟨world, []⟩).threads.length ≤ serial) :
    answers program serial moves ⟨world, []⟩ = [] := by
  induction moves using List.reverseRecOn with
  | nil => rfl
  | append_singleton moves move ih =>
      rw [run_append, run_cons, run_nil] at habsent
      have hbefore : (run program moves ⟨world, []⟩).threads.length ≤ serial := by
        cases move with
        | start subject =>
            simp only [step, List.length_append, List.length_singleton] at habsent
            omega
        | advance advanced choice =>
            simp only [step] at habsent
            split at habsent
            · rwa [List.length_set] at habsent
            · exact habsent
        | outside event => exact habsent
      rw [answers_concat, ih hbefore, List.append_nil]
      cases move with
      | advance advanced choice =>
          simp only [answered]
          split
          next heq => rw [heq, List.getElem?_eq_none hbefore]
          next => rfl
      | _ => rfl

/-- A program that is not served is answered nothing. -/
theorem answered_eq_nil {pool : Pool V α} {move : Move V} {serial : Nat} {subject : ι}
    {body : Prog S α} (hthread : pool.threads[serial]? = some (subject, body))
    (hserved : ∀ choice op next, move = .advance serial choice → body ≠ .call op next) :
    pool.answered serial move = [] := by
  cases move with
  | advance advanced choice =>
      simp only [answered]
      split
      next heq =>
        subst heq
        rw [hthread]
        cases body with
        | ret value => rfl
        | call op next => exact absurd rfl (hserved choice op next rfl)
      next => rfl
  | _ => rfl

/-- Wherever a program has come to, its answers have led it there. -/
theorem thread_leads {world : V.World} {moves : List (Move V)} {serial : Nat} {subject : ι}
    {body : Prog S α}
    (hthread : (run program moves ⟨world, []⟩).threads[serial]? = some (subject, body)) :
    (program subject).Leads (answers program serial moves ⟨world, []⟩) body := by
  induction moves using List.reverseRecOn generalizing body with
  | nil => cases hthread
  | append_singleton moves move ih =>
      rw [answers_concat]
      rw [run_append, run_cons, run_nil] at hthread
      rcases step_thread hthread with
        ⟨hbefore, hserved⟩ | ⟨rfl, hlength, rfl⟩ | ⟨choice, op, next, rfl, hbefore, rfl⟩
      · rw [answered_eq_nil hbefore hserved]
        exact ih hbefore
      · rw [answers_absent (Nat.le_of_eq hlength)]
        exact .start
      · simp only [answered, if_true, hbefore]
        exact .answered _ (ih hbefore)

/-- Every answer was given as the program was advanced. -/
theorem exists_of_mem_answers {world : V.World} {moves : List (Move V)} {serial : Nat}
    {exchange : Exchange S} (hmem : exchange ∈ answers program serial moves ⟨world, []⟩) :
    ∃ first choice later subject next, moves = first ++ .advance serial choice :: later ∧
      (run program first ⟨world, []⟩).threads[serial]? = some (subject, .call exchange.op next) ∧
      exchange.answer = (V.serve ⟨subject, serial⟩ choice exchange.op
        (run program first ⟨world, []⟩).world).1 := by
  induction moves using List.reverseRecOn with
  | nil => cases hmem
  | append_singleton moves move ih =>
      rw [answers_concat] at hmem
      rcases List.mem_append.mp hmem with hnew | hold
      · cases move with
        | advance advanced choice =>
            simp only [answered] at hnew
            split at hnew
            next hserial =>
              subst hserial
              split at hnew
              next subject op next hthread =>
                obtain rfl := List.mem_singleton.mp hnew
                exact ⟨moves, choice, [], subject, next, rfl, hthread, rfl⟩
              next => cases hnew
            next => cases hnew
        | _ => cases hnew
      · obtain ⟨first, choice, later, subject, next, rfl, hthread⟩ := ih hold
        exact ⟨first, choice, later ++ [move], subject, next, by simp, hthread⟩

end Pool

/-! ## Programs of some operations -/

/-- Whatever the answers, the program performs operations of a kind. -/
def Prog.Only (allowed : S.Op → Prop) : Prog S α → Prop
  | .ret _ => True
  | .call op next => allowed op ∧ ∀ answer, (next answer).Only allowed

namespace Pool

/-- A program of some operations is one wherever it has come to. -/
theorem thread_only {allowed : S.Op → Prop} {world : V.World} {moves : List (Move V)}
    {serial : Nat} {subject : ι} {body : Prog S α}
    (hthread : (run program moves ⟨world, []⟩).threads[serial]? = some (subject, body))
    (honly : (program subject).Only allowed) : body.Only allowed := by
  induction moves using List.reverseRecOn generalizing body with
  | nil => cases hthread
  | append_singleton moves move ih =>
      rw [run_append, run_cons, run_nil] at hthread
      rcases step_thread hthread with
        ⟨hbefore, -⟩ | ⟨rfl, -, rfl⟩ | ⟨_, _, _, -, hbefore, rfl⟩
      · exact ih hbefore
      · exact honly
      · exact (ih hbefore).2 _

/-- What came from the outside, in the order it came. -/
def outsides (moves : List (Move V)) : List V.Outside :=
  moves.filterMap fun
    | .outside event => some event
    | _ => none

/-- What serving the operations of a kind keeps, and the outside carries on as it acts,
a pool carries on whose programs perform no others. -/
theorem run_only {allowed : S.Op → Prop} {holds : List V.Outside → V.World → Prop}
    (hserve : ∀ client choice op world events, allowed op → holds events world →
      holds events (V.serve client choice op world).2)
    (houtside : ∀ event world events, holds events world →
      holds (events ++ [event]) (V.outside event world))
    {moves : List (Move V)} {pool : Pool V α} {events : List V.Outside}
    (hthreads : ∀ thread ∈ pool.threads, thread.2.Only allowed)
    (hstarted : ∀ subject, .start subject ∈ moves → (program subject).Only allowed)
    (hpool : holds events pool.world) :
    holds (events ++ outsides moves) (run program moves pool).world := by
  induction moves generalizing pool events with
  | nil =>
      rw [outsides, List.filterMap_nil, List.append_nil]
      exact hpool
  | cons move moves ih =>
      have hrest : ∀ subject, .start subject ∈ moves → (program subject).Only allowed :=
        fun subject hmem => hstarted subject (List.mem_cons_of_mem _ hmem)
      rw [run_cons]
      cases move with
      | start subject =>
          refine ih ?_ hrest hpool
          intro thread hthread
          cases List.mem_append.mp hthread with
          | inl hold => exact hthreads thread hold
          | inr hnew =>
              rw [List.mem_singleton.mp hnew]
              exact hstarted subject List.mem_cons_self
      | advance serial choice =>
          simp only [step]
          split
          next subject op next hthread =>
            obtain ⟨hallowed, hnext⟩ := hthreads _ (List.mem_of_getElem? hthread)
            refine ih ?_ hrest (hserve _ choice op _ events hallowed hpool)
            intro thread hmem
            cases List.mem_or_eq_of_mem_set hmem with
            | inl hold => exact hthreads thread hold
            | inr hnew =>
                rw [hnew]
                exact hnext _
          next => exact ih hthreads hrest hpool
      | outside event =>
          have hsame : ∀ thread ∈ (pool.step program (.outside event)).threads,
              thread.2.Only allowed := hthreads
          have hlater := ih hsame hrest (houtside event _ events hpool)
          rw [List.append_assoc] at hlater
          exact hlater

end Pool

end Interaction
