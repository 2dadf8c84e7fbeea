import CloudioOrchestrator.Interaction.Pool

/-! # Successive programs

Programs about one subject that succeed one another: once a later one is
started, the earlier ones take no further step, however far they got. Programs
about different subjects interleave as in a pool.
-/

namespace Interaction

variable {S : Signature} {ι α : Type} {V : Service S ι} [DecidableEq ι]

namespace Pool

/-- A later program about the same subject was started. -/
def superseded (pool : Pool V α) (serial : Nat) : Bool :=
  match pool.threads[serial]? with
  | some (subject, _) => (pool.threads.drop (serial + 1)).any fun later => later.1 = subject
  | none => false

variable (program : ι → Prog S α)

/-- As in a pool, but a program that is superseded has been cut off. -/
def succeed (pool : Pool V α) : Move V → Pool V α
  | .advance serial choice =>
      if pool.superseded serial then pool else pool.step program (.advance serial choice)
  | move => pool.step program move

def succession (moves : List (Move V)) (pool : Pool V α) : Pool V α :=
  moves.foldl (succeed program) pool

@[simp] theorem succession_nil (pool : Pool V α) : succession program [] pool = pool := rfl

@[simp] theorem succession_cons (move : Move V) (moves : List (Move V)) (pool : Pool V α) :
    succession program (move :: moves) pool =
      succession program moves (pool.succeed program move) := rfl

variable {program} {pool : Pool V α}

/-- What a succession reaches, a pool reaches: superseded programs are just not advanced. -/
theorem succession_eq_run (moves : List (Move V)) (pool : Pool V α) :
    ∃ others, succession program moves pool = run program others pool := by
  induction moves generalizing pool with
  | nil => exact ⟨[], rfl⟩
  | cons move moves ih =>
      obtain ⟨others, hothers⟩ := ih (pool.succeed program move)
      rw [succession_cons, hothers]
      cases move with
      | advance serial choice =>
          by_cases hsuperseded : pool.superseded serial = true
          · exact ⟨others, by rw [succeed, if_pos hsuperseded]⟩
          · exact ⟨.advance serial choice :: others, by rw [succeed, if_neg hsuperseded, run_cons]⟩
      | start subject => exact ⟨.start subject :: others, rfl⟩
      | outside event => exact ⟨.outside event :: others, rfl⟩

theorem superseded_eq_false {serial : Nat} {subject : ι} {body : Prog S α}
    (hthread : pool.threads[serial]? = some (subject, body)) :
    pool.superseded serial = false ↔
      ∀ later other rest, serial < later → pool.threads[later]? = some (other, rest) →
        other ≠ subject := by
  simp only [superseded, hthread, List.any_eq_false, decide_eq_true_eq]
  constructor
  · intro hnone later other rest hlater hfound
    apply hnone (other, rest)
    apply List.mem_of_getElem? (i := later - (serial + 1))
    rw [List.getElem?_drop, ← hfound]
    congr 1
    omega
  · rintro hnone ⟨other, rest⟩ hmem
    obtain ⟨offset, hoffset⟩ := List.mem_iff_getElem?.mp hmem
    rw [List.getElem?_drop] at hoffset
    exact hnone _ other rest (by omega) hoffset

/-- No two programs about one subject are both still to be heard of. -/
theorem superseded_unique {first second : Nat} {subject : ι} {body rest : Prog S α}
    (hbody : pool.threads[first]? = some (subject, body))
    (hrest : pool.threads[second]? = some (subject, rest))
    (hfirst : pool.superseded first = false) (hsecond : pool.superseded second = false) :
    first = second := by
  rw [superseded_eq_false hbody] at hfirst
  rw [superseded_eq_false hrest] at hsecond
  rcases Nat.lt_trichotomy first second with hlt | heq | hgt
  · exact absurd rfl (hfirst second subject rest hlt hrest)
  · exact heq
  · exact absurd rfl (hsecond first subject body hgt hbody)

end Pool

namespace Discipline

/-- What makes a discipline hold of programs that succeed one another: only
programs about different subjects have to put up with each other. -/
structure Separable (program : ι → Prog S α) (D : Discipline V)
    (absent : Client ι → V.World → Prop) : Prop where
  interference : ∀ {client other world final}, client.subject ≠ other.subject →
    D.inv world → D.guar client world final → D.rely other world final
  outside_inv : ∀ event world, D.inv world → D.inv (V.outside event world)
  outside_rely : ∀ client event world, D.inv world → D.rely client world (V.outside event world)
  absent_guar : ∀ {client other world final}, client ≠ other → D.guar client world final →
    absent other world → absent other final
  absent_outside : ∀ {client} event {world}, absent client world →
    absent client (V.outside event world)
  start : ∀ client world, D.inv world → absent client world →
    D.Safe client (fun _ _ => True) (program client.subject) world

/-- The programs that are not superseded are safe in the world as it stands. -/
structure Ordered (D : Discipline V) (absent : Client ι → V.World → Prop) (pool : Pool V α) :
    Prop where
  inv : D.inv pool.world
  absent : ∀ client, pool.threads.length ≤ client.serial → absent client pool.world
  safe : ∀ serial subject body, pool.threads[serial]? = some (subject, body) →
    pool.superseded serial = false →
    D.Safe ⟨subject, serial⟩ (fun _ _ => True) body pool.world

variable {program : ι → Prog S α} {D : Discipline V} {absent : Client ι → V.World → Prop}

theorem Ordered.start (hD : D.Separable program absent) {pool : Pool V α}
    (hpool : D.Ordered absent pool) (subject : ι) :
    D.Ordered absent (pool.step program (.start subject)) := by
  refine ⟨hpool.inv, fun client hclient => hpool.absent client ?_, ?_⟩
  · simp only [Pool.step, List.length_append, List.length_singleton] at hclient
    omega
  intro serial found body hfound hlatest
  rw [Pool.superseded_eq_false hfound] at hlatest
  simp only [Pool.step, List.getElem?_append] at hfound hlatest
  split at hfound
  next hserial =>
    refine hpool.safe serial found body hfound ?_
    rw [Pool.superseded_eq_false hfound]
    intro later other rest hlater hother
    refine hlatest later other rest hlater ?_
    have hbound := (List.getElem?_eq_some_iff.mp hother).1
    rw [if_pos hbound]
    exact hother
  next hserial =>
    obtain ⟨rfl, rfl⟩ : subject = found ∧ program subject = body := by
      have hmem := List.mem_of_getElem? hfound
      simpa [eq_comm] using hmem
    exact hD.start ⟨subject, serial⟩ pool.world hpool.inv (hpool.absent _ (by simpa using hserial))

theorem Ordered.advance (hD : D.Separable program absent) {pool : Pool V α}
    (hpool : D.Ordered absent pool) {serial : Nat} (hserial : pool.superseded serial = false)
    (choice : V.Choice) : D.Ordered absent (pool.step program (.advance serial choice)) := by
  simp only [Pool.step]
  split
  next subject op next hthread =>
    obtain ⟨hinv, hguar, hnext⟩ := hpool.safe serial subject _ hthread hserial
      pool.world (D.refl _ _) hpool.inv choice
    have hlength := (List.getElem?_eq_some_iff.mp hthread).1
    refine ⟨hinv, fun client hclient => ?_, ?_⟩
    · rw [List.length_set] at hclient
      refine hD.absent_guar ?_ hguar (hpool.absent client hclient)
      rintro rfl
      exact absurd hlength (Nat.not_lt.mpr hclient)
    intro other found body hfound hlatest
    by_cases heq : other = serial
    · subst heq
      rw [List.getElem?_set_self hlength] at hfound
      obtain ⟨rfl, rfl⟩ := Option.some.inj hfound
      exact hnext
    · -- setting a program's rest changes nobody's subject
      rw [Pool.superseded_eq_false hfound] at hlatest
      simp only [List.getElem?_set_ne (Ne.symm heq)] at hfound
      have hunsuperseded : pool.superseded other = false := by
        rw [Pool.superseded_eq_false hfound]
        intro later third rest hlater hthird
        by_cases hsame : later = serial
        · subst hsame
          rw [hthread] at hthird
          obtain ⟨rfl, rfl⟩ := Option.some.inj hthird
          exact hlatest later _ _ hlater (List.getElem?_set_self hlength)
        · refine hlatest later third rest hlater ?_
          rw [List.getElem?_set_ne (Ne.symm hsame)]
          exact hthird
      have hsubject : subject ≠ found := by
        rintro rfl
        exact heq (Pool.superseded_unique hfound hthread hunsuperseded hserial)
      refine (hpool.safe other found body hfound hunsuperseded).of_rely ?_
      exact hD.interference hsubject hpool.inv hguar
  next => exact hpool

theorem Ordered.succeed (hD : D.Separable program absent) {pool : Pool V α}
    (hpool : D.Ordered absent pool) (move : Move V) :
    D.Ordered absent (pool.succeed program move) := by
  cases move with
  | start subject => exact hpool.start hD subject
  | advance serial choice =>
      simp only [Pool.succeed]
      split
      next => exact hpool
      next hserial => exact hpool.advance hD (by simpa using hserial) choice
  | outside event =>
      exact ⟨hD.outside_inv event pool.world hpool.inv,
        fun client hclient => hD.absent_outside event (hpool.absent client hclient),
        fun serial subject body hfound hlatest =>
          (hpool.safe serial subject body hfound hlatest).of_rely
          (hD.outside_rely _ event pool.world hpool.inv)⟩

theorem Ordered.succession (hD : D.Separable program absent) {pool : Pool V α}
    (hpool : D.Ordered absent pool) (moves : List (Move V)) :
    D.Ordered absent (Pool.succession program moves pool) := by
  induction moves generalizing pool with
  | nil => exact hpool
  | cons move rest ih => exact ih (hpool.succeed hD move)

/-- A pool with no program yet is ordered where nobody has taken part. -/
theorem Ordered.empty {world : V.World} (hinv : D.inv world)
    (habsent : ∀ client, absent client world) :
    D.Ordered absent (⟨world, []⟩ : Pool V α) :=
  ⟨hinv, fun client _ => habsent client, by simp⟩

end Discipline

end Interaction
