import TimeShare.Preemption.FlagPool
import TimeShare.Proofs.Scheduler.Steps

/-!
# Handles of one flag

Handles are made with new flags or cloned from other handles, at any time and from
clones as well. Those that descend from one new flag form a family, and
`act_per_family` says that a family acts as one: all its handles read what was last
given through any of them, and nothing done through another family shows.

* `founder`: the handle made with the new flag from which a handle descends.
  `same_flag_iff`: two handles hold one flag just if they have one founder.
* `isRaised_eq_lastPut`: what a handle reads is what its family was given last. All
  else follows from it, as no step changes what a family was given but one through
  a handle of that family.
* `handOver`, `during`: the handles of a dispatch. The scheduler and the context each
  have one that descends from the task's.
-/

namespace TimeShare

/-- What has been done with flags. Handles are numbered in the order in which they were made, and
the index is how many there are. -/
inductive FlagHistory : Nat → Type
  | start : FlagHistory 0
  /-- A new flag with a handle on it. -/
  | create {n : Nat} (earlier : FlagHistory n) : FlagHistory (n + 1)
  /-- A clone of a handle. -/
  | share {n : Nat} (earlier : FlagHistory n) (original : Fin n) : FlagHistory (n + 1)
  /-- A flag is raised or cleared through a handle. -/
  | put {n : Nat} (earlier : FlagHistory n) (handle : Fin n) (value : Bool) : FlagHistory n

namespace FlagHistory

variable {n : Nat}

/-- The flags after a history. -/
def pool {n : Nat} : FlagHistory n → FlagPool
  | start => .empty
  | create earlier => earlier.pool.create
  | share earlier original => earlier.pool.share original
  | put earlier handle value =>
    if value then earlier.pool.raise handle else earlier.pool.clear handle

/-- The handle made with the new flag from which a handle descends. -/
def founder : {n : Nat} → FlagHistory n → Nat → Nat
  | _, start, handle => handle
  | _, create (n := n) earlier, handle => if handle = n then n else earlier.founder handle
  | _, share (n := n) earlier original, handle =>
    if handle = n then earlier.founder original else earlier.founder handle
  | _, put earlier _ _, handle => earlier.founder handle

/-- Whether two handles descend from one new flag. -/
def family (history : FlagHistory n) (handle other : Nat) : Bool :=
  history.founder other = history.founder handle

/-- The value that was last given through one of some handles, if any was. -/
def lastPut (among : Nat → Bool) {n : Nat} : FlagHistory n → Option Bool
  | start => none
  | create earlier => earlier.lastPut among
  | share earlier _ => earlier.lastPut among
  | put earlier handle value => if among handle then some value else earlier.lastPut among

/-! ## Families -/

variable {history : FlagHistory n} {handle : Nat}

/-- A handle descends from one that is no younger. -/
theorem founder_lt (history : FlagHistory n) (inside : handle < n) :
    history.founder handle < n := by
  induction history generalizing handle with
  | start => exact inside
  | @create n earlier ih =>
    rw [founder]
    split
    · exact Nat.lt_succ_self n
    · exact Nat.lt_succ_of_lt (ih (by omega))
  | @share n earlier original ih =>
    rw [founder]
    split
    · exact Nat.lt_succ_of_lt (ih original.isLt)
    · exact Nat.lt_succ_of_lt (ih (by omega))
  | put earlier _ _ ih => exact ih inside

theorem founder_create_of_lt (inside : handle < n) :
    history.create.founder handle = history.founder handle :=
  if_neg (Nat.ne_of_lt inside)

theorem founder_share_of_lt (original : Fin n) (inside : handle < n) :
    (history.share original).founder handle = history.founder handle :=
  if_neg (Nat.ne_of_lt inside)

theorem founder_create_self (history : FlagHistory n) : history.create.founder n = n :=
  if_pos rfl

/-- Only the handles that there are can have been given a value. -/
theorem lastPut_congr {among among' : Nat → Bool} (history : FlagHistory n)
    (same : ∀ handle < n, among handle = among' handle) :
    history.lastPut among = history.lastPut among' := by
  induction history with
  | start => rfl
  | create earlier ih => exact ih fun handle inside => same handle (Nat.lt_succ_of_lt inside)
  | share earlier original ih =>
    exact ih fun handle inside => same handle (Nat.lt_succ_of_lt inside)
  | put earlier handle value ih =>
    rw [lastPut, lastPut, same handle handle.isLt, ih same]

theorem lastPut_none (history : FlagHistory n) : history.lastPut (fun _ => false) = none := by
  induction history with
  | start => rfl
  | create earlier ih => exact ih
  | share earlier original ih => exact ih
  | put earlier handle value ih =>
    rw [lastPut, ih]
    rfl

/-! ## Flags -/

theorem pool_put (history : FlagHistory n) (handle : Fin n) (value : Bool) :
    (history.put handle value).pool = history.pool.put handle value := by
  rw [pool]
  cases value <;> rfl

@[simp] theorem handles_put (history : FlagHistory n) (handle : Fin n) (value : Bool) :
    (history.put handle value).pool.handles = history.pool.handles := by
  rw [pool_put, FlagPool.put]
  split <;> rfl

/-- There are as many handles as the history made. -/
@[simp] theorem length_handles (history : FlagHistory n) : history.pool.handles.length = n := by
  induction history with
  | start => rfl
  | create earlier ih => rw [pool, FlagPool.create, List.length_append, ih, List.length_singleton]
  | @share n earlier original ih =>
    have held : ∃ flag, earlier.pool.handles[original.val]? = some flag :=
      ⟨_, List.getElem?_eq_getElem (by rw [ih]; exact original.isLt)⟩
    obtain ⟨flag, held⟩ := held
    rw [pool, FlagPool.share, held]
    dsimp only
    rw [List.length_append, ih, List.length_singleton]
  | put earlier handle value ih => rw [handles_put, ih]

theorem exists_flag (history : FlagHistory n) (inside : handle < n) :
    ∃ flag, history.pool.handles[handle]? = some flag :=
  ⟨_, List.getElem?_eq_getElem (by rw [length_handles]; exact inside)⟩

theorem pool_share (history : FlagHistory n) (original : Fin n) :
    ∃ flag, history.pool.handles[original.val]? = some flag ∧
      (history.share original).pool =
        ⟨history.pool.flags, history.pool.handles ++ [flag]⟩ := by
  obtain ⟨flag, held⟩ := history.exists_flag original.isLt
  refine ⟨flag, held, ?_⟩
  rw [pool, FlagPool.share, held]

/-- The original of a handle if it is the one cloned last, and else the handle itself. -/
def traced (n original handle : Nat) : Nat :=
  if handle = n then original else handle

theorem traced_lt {original : Fin n} (inside : handle < n + 1) : traced n original handle < n := by
  unfold traced
  split <;> omega

theorem traced_of_lt (original : Nat) (inside : handle < n) : traced n original handle = handle :=
  if_neg (Nat.ne_of_lt inside)

theorem founder_share (history : FlagHistory n) (original : Fin n) (handle : Nat) :
    (history.share original).founder handle = history.founder (traced n original handle) := by
  rw [founder, traced]
  split <;> rfl

/-- A clone holds the flag of its original, and the other handles hold what they held. -/
theorem getElem?_handles_share (history : FlagHistory n) (original : Fin n)
    (inside : handle < n + 1) :
    (history.share original).pool.handles[handle]? =
      history.pool.handles[traced n original handle]? := by
  obtain ⟨flag, held, shared⟩ := history.pool_share original
  rw [shared, traced]
  split
  · rename_i last
    subst last
    have place := List.getElem?_concat_length (l := history.pool.handles) (a := flag)
    rw [length_handles] at place
    rw [held, place]
  · rename_i older
    exact List.getElem?_append_left (by rw [length_handles]; omega)

theorem getElem?_handles_create_self (history : FlagHistory n) :
    history.create.pool.handles[n]? = some history.pool.flags.length := by
  have place := List.getElem?_concat_length (l := history.pool.handles)
    (a := history.pool.flags.length)
  rw [length_handles] at place
  exact place

theorem getElem?_handles_create_of_lt (inside : handle < n) :
    history.create.pool.handles[handle]? = history.pool.handles[handle]? :=
  List.getElem?_append_left (by rw [length_handles]; exact inside)

/-- Every handle holds a flag that there is. -/
theorem flag_lt {flag : Nat} (history : FlagHistory n)
    (held : history.pool.handles[handle]? = some flag) : flag < history.pool.flags.length := by
  induction history generalizing handle with
  | start => cases held
  | @create n earlier ih =>
    have more : earlier.create.pool.flags.length = earlier.pool.flags.length + 1 :=
      List.length_append
    have inside : handle < n + 1 := by
      have bound := (List.getElem?_eq_some_iff.1 held).1
      rwa [length_handles] at bound
    rcases Nat.lt_succ_iff_lt_or_eq.1 inside with older | rfl
    · rw [getElem?_handles_create_of_lt older] at held
      have earlier_lt := ih held
      omega
    · rw [getElem?_handles_create_self] at held
      have last := Option.some.inj held
      omega
  | @share n earlier original ih =>
    have inside : handle < n + 1 := by
      have bound := (List.getElem?_eq_some_iff.1 held).1
      rwa [length_handles] at bound
    obtain ⟨_, _, shared⟩ := earlier.pool_share original
    rw [getElem?_handles_share earlier original inside] at held
    rw [shared]
    exact ih held
  | put earlier given value ih =>
    rw [handles_put] at held
    have same : (earlier.put given value).pool.flags.length = earlier.pool.flags.length := by
      rw [pool_put, FlagPool.put]
      split
      · exact List.length_set
      · rfl
    rw [same]
    exact ih held

/-- Two handles hold one flag just if they have one founder. -/
theorem same_flag_iff {other : Nat} (history : FlagHistory n) (inside : handle < n)
    (inside' : other < n) :
    history.pool.handles[handle]? = history.pool.handles[other]? ↔
      history.founder handle = history.founder other := by
  induction history generalizing handle other with
  | start => cases inside
  | @create n earlier ih =>
    -- The flag of the last handle is new, and so is the handle.
    have new : ∀ older < n, earlier.pool.handles[older]? ≠ some earlier.pool.flags.length :=
      fun older _ held => Nat.lt_irrefl _ (earlier.flag_lt held)
    rcases Nat.lt_succ_iff_lt_or_eq.1 inside with older | rfl
    · rw [getElem?_handles_create_of_lt older, founder_create_of_lt older]
      rcases Nat.lt_succ_iff_lt_or_eq.1 inside' with older' | rfl
      · rw [getElem?_handles_create_of_lt older', founder_create_of_lt older', ih older older']
      · rw [getElem?_handles_create_self, founder_create_self]
        exact iff_of_false (new _ older) (Nat.ne_of_lt (earlier.founder_lt older))
    · rw [getElem?_handles_create_self, founder_create_self]
      rcases Nat.lt_succ_iff_lt_or_eq.1 inside' with older' | rfl
      · rw [getElem?_handles_create_of_lt older', founder_create_of_lt older']
        exact iff_of_false (new _ older').symm (Nat.ne_of_gt (earlier.founder_lt older'))
      · rw [getElem?_handles_create_self, founder_create_self]
        exact iff_of_true rfl rfl
  | share earlier original ih =>
    rw [getElem?_handles_share earlier original inside,
      getElem?_handles_share earlier original inside', founder_share, founder_share]
    exact ih (traced_lt inside) (traced_lt inside')
  | put earlier given value ih =>
    rw [handles_put]
    exact ih inside inside'

/-! ## Readings -/

theorem isRaised_eq {flag : Nat} (held : history.pool.handles[handle]? = some flag) :
    history.pool.isRaised handle = history.pool.flags[flag]?.getD false := by
  rw [FlagPool.isRaised, held]

theorem isRaised_create_self (history : FlagHistory n) :
    history.create.pool.isRaised n = false := by
  rw [isRaised_eq history.getElem?_handles_create_self, pool, FlagPool.create,
    List.getElem?_concat_length, Option.getD_some]

theorem isRaised_create_of_lt (inside : handle < n) :
    history.create.pool.isRaised handle = history.pool.isRaised handle := by
  obtain ⟨flag, held⟩ := history.exists_flag inside
  have held' := held
  rw [← getElem?_handles_create_of_lt inside] at held'
  rw [isRaised_eq held, isRaised_eq held', pool, FlagPool.create,
    List.getElem?_append_left (history.flag_lt held)]

/-- A clone reads what its original reads. -/
theorem isRaised_share (history : FlagHistory n) (original : Fin n) (inside : handle < n + 1) :
    (history.share original).pool.isRaised handle =
      history.pool.isRaised (traced n original handle) := by
  obtain ⟨_, _, shared⟩ := history.pool_share original
  rw [FlagPool.isRaised, getElem?_handles_share history original inside, FlagPool.isRaised, shared]

/-- What is given through one handle is read by those of its family. -/
theorem isRaised_put (given : Fin n) (value : Bool) (inside : handle < n) :
    (history.put given value).pool.isRaised handle =
      if history.family handle given then value else history.pool.isRaised handle := by
  obtain ⟨flag, held⟩ := history.exists_flag inside
  obtain ⟨target, reached⟩ := history.exists_flag given.isLt
  have same : target = flag ↔ history.founder given = history.founder handle := by
    rw [← history.same_flag_iff given.isLt inside, reached, held, Option.some_inj]
  have held' := held
  rw [← handles_put history given value] at held'
  rw [isRaised_eq held, isRaised_eq held', pool_put, FlagPool.put, reached]
  dsimp only
  rw [List.getElem?_set, family]
  by_cases one : target = flag
  · rw [if_pos one, if_pos (history.flag_lt reached), if_pos (decide_eq_true (same.1 one)),
      Option.getD_some]
  · rw [if_neg one, if_neg (by rw [decide_eq_true_eq]; exact fun kin => one (same.2 kin))]

/-- What a handle reads is what its family was given last. -/
theorem isRaised_eq_lastPut (history : FlagHistory n) (inside : handle < n) :
    history.pool.isRaised handle = (history.lastPut (history.family handle)).getD false := by
  induction history generalizing handle with
  | start => cases inside
  | @create n earlier ih =>
    rcases Nat.lt_succ_iff_lt_or_eq.1 inside with older | rfl
    · have family : ∀ other < n,
          earlier.create.family handle other = earlier.family handle other := by
        intro other inside'
        rw [FlagHistory.family, founder_create_of_lt inside', founder_create_of_lt older,
          FlagHistory.family]
      rw [isRaised_create_of_lt older, ih older, lastPut, earlier.lastPut_congr family]
    · have alone : ∀ other < handle, earlier.create.family handle other = false := by
        intro other inside'
        rw [family, founder_create_of_lt inside', founder_create_self]
        exact decide_eq_false (Nat.ne_of_lt (earlier.founder_lt inside'))
      rw [isRaised_create_self, lastPut, earlier.lastPut_congr alone, lastPut_none,
        Option.getD_none]
  | @share n earlier original ih =>
    have family : ∀ other < n, (earlier.share original).family handle other =
        earlier.family (traced n original handle) other := by
      intro other inside'
      rw [FlagHistory.family, founder_share, founder_share, traced_of_lt _ inside',
        FlagHistory.family]
    rw [isRaised_share earlier original inside, ih (traced_lt inside), lastPut,
      earlier.lastPut_congr family]
  | put earlier given value ih =>
    rw [isRaised_put given value inside, ih inside, lastPut]
    have same : (earlier.put given value).family handle = earlier.family handle := rfl
    rw [same]
    split <;> rfl

/-! ## Later histories -/

/-- What may have become of a history. -/
inductive Continues (history : FlagHistory n) : {m : Nat} → FlagHistory m → Prop
  | refl : Continues history history
  | create {m : Nat} {later : FlagHistory m} : Continues history later →
    Continues history later.create
  | share {m : Nat} {later : FlagHistory m} (original : Fin m) : Continues history later →
    Continues history (later.share original)
  | put {m : Nat} {later : FlagHistory m} (handle : Fin m) (value : Bool) :
    Continues history later → Continues history (later.put handle value)

/-- No handle changes its family, and none is lost. -/
theorem Continues.founder {m : Nat} {later : FlagHistory m} (continues : Continues history later)
    (inside : handle < n) : handle < m ∧ later.founder handle = history.founder handle := by
  induction continues with
  | refl => exact ⟨inside, rfl⟩
  | create _ ih => exact ⟨Nat.lt_succ_of_lt ih.1, (founder_create_of_lt ih.1).trans ih.2⟩
  | share original _ ih =>
    exact ⟨Nat.lt_succ_of_lt ih.1, (founder_share_of_lt original ih.1).trans ih.2⟩
  | put _ _ _ ih => exact ih

/-- Handles of one family read the same, however the history goes on. -/
theorem Continues.agree {m : Nat} {later : FlagHistory m} {other : Nat}
    (continues : Continues history later) (inside : handle < n) (inside' : other < n)
    (kin : history.founder handle = history.founder other) :
    later.pool.isRaised handle = later.pool.isRaised other := by
  obtain ⟨below, founder⟩ := continues.founder inside
  obtain ⟨below', founder'⟩ := continues.founder inside'
  have family : later.family handle = later.family other := by
    funext another
    rw [FlagHistory.family, founder, kin, ← founder', FlagHistory.family]
  rw [isRaised_eq_lastPut later below, isRaised_eq_lastPut later below', family]

/-! ## Dispatches -/

/-- The handles of a dispatch: the flag of the task is cleared through its own handle, from which
the scheduler clones one, and from that one more for the context. -/
def handOver (history : FlagHistory n) (own : Fin n) : FlagHistory (n + 2) :=
  ((history.put own false).share own).share (Fin.last n)

/-- The flags when a context has recorded some instructions: if the slice has ended, the scheduler
has raised the flag through its handle. -/
def during (history : FlagHistory n) (own : Fin n) (interruption : Interruption)
    (executed : Nat) : FlagHistory (n + 2) :=
  if interruption.poll executed then (history.handOver own).put ⟨n, by omega⟩ true
  else history.handOver own

/-- The handle of before a dispatch from which a handle descends. -/
def before (own : Fin n) (handle : Nat) : Nat :=
  traced n own (traced (n + 1) n handle)

section Dispatch

variable {own : Fin n} {interruption : Interruption} {executed : Nat}

theorem before_of_lt (own : Fin n) (inside : handle < n) : before own handle = handle := by
  rw [before, traced_of_lt n (Nat.lt_succ_of_lt inside), traced_of_lt _ inside]

theorem before_scheduler (own : Fin n) : before own n = own := by
  rw [before, traced_of_lt n (Nat.lt_succ_self n), traced, if_pos rfl]

theorem before_context (own : Fin n) : before own (n + 1) = own := by
  rw [before, traced, traced, if_pos rfl, if_pos rfl]

theorem before_lt (inside : handle < n + 2) : before own handle < n := by
  have older : traced (n + 1) n handle < n + 1 := @traced_lt (n + 1) handle (Fin.last n) inside
  exact traced_lt older

theorem founder_handOver (history : FlagHistory n) (own : Fin n) (handle : Nat) :
    (history.handOver own).founder handle = history.founder (before own handle) := by
  rw [handOver, founder_share, founder_share, founder, before, Fin.val_last]

theorem isRaised_handOver (history : FlagHistory n) (own : Fin n) (inside : handle < n + 2) :
    (history.handOver own).pool.isRaised handle =
      if history.family (before own handle) own then false
      else history.pool.isRaised (before own handle) := by
  rw [handOver, isRaised_share _ _ inside, isRaised_share _ _ (traced_lt inside)]
  exact isRaised_put own false (before_lt inside)

/-- While a context works, the flags of the task's family are raised if the slice has ended, and all
others are as they were. -/
theorem isRaised_during (history : FlagHistory n) (own : Fin n) (interruption : Interruption)
    (executed : Nat) (inside : handle < n + 2) :
    (history.during own interruption executed).pool.isRaised handle =
      if history.family (before own handle) own then interruption.poll executed
      else history.pool.isRaised (before own handle) := by
  have cleared := history.isRaised_handOver own inside
  have kin : (history.handOver own).family handle n = history.family (before own handle) own := by
    rw [family, founder_handOver, founder_handOver, before_scheduler, family]
  rw [during]
  split
  · rename_i ended
    rw [isRaised_put _ true inside, kin, cleared, ended]
    split <;> rfl
  · rename_i runs
    rw [cleared, eq_false_of_ne_true runs]

end Dispatch

/-- The flag that a context leaves raised or not is the one that it saw at its end. -/
theorem poll_of_joined {interruption : Interruption} {program : Program} {processor : Processor}
    {run : Processor.Run} {raised : Bool}
    (joined : interruption.carryOut program processor = .joined run raised) :
    interruption.poll run.report.retired = raised := by
  cases interruption with
  | none =>
    obtain ⟨_, rfl⟩ := ContextEnd.joined.inj joined
    rfl
  | expiry executed =>
    obtain ⟨rfl, rfl⟩ := ContextEnd.joined.inj joined
    rfl
  | breakdown executed further =>
    simp only [Interruption.carryOut] at joined
    split at joined
    · cases joined
    · obtain ⟨_, rfl⟩ := ContextEnd.joined.inj joined
      rfl

/-! ## Families act as one -/

/-- What comes of a history, and of anything done after it. -/
structure PerFamily (history : FlagHistory n) : Prop where
  readings : history.pool.readings = (List.range n).map history.pool.isRaised
  /-- A handle reads raised just if its family was given that last. -/
  last : ∀ handle < n, history.pool.isRaised handle = true ↔
    history.lastPut (history.family handle) = some true
  /-- Handles of one family read the same, however the history goes on. -/
  agree : ∀ {m : Nat} (later : FlagHistory m), history.Continues later →
    ∀ handle < n, ∀ other < n, history.founder handle = history.founder other →
      later.pool.isRaised handle = later.pool.isRaised other
  /-- What is given to one family is not read by another. -/
  apart : ∀ (given : Fin n) value, ∀ handle < n, history.founder given ≠ history.founder handle →
    (history.put given value).pool.isRaised handle = history.pool.isRaised handle
  /-- A new flag is not raised, has a family of its own and changes no reading. -/
  created : history.create.pool.isRaised n = false ∧ ∀ handle < n,
    history.create.founder handle ≠ history.create.founder n ∧
      history.create.pool.isRaised handle = history.pool.isRaised handle
  /-- A clone reads what its original reads and changes no reading. -/
  cloned : ∀ original : Fin n,
    (history.share original).pool.isRaised n = history.pool.isRaised original ∧ ∀ handle < n,
      (history.share original).pool.isRaised handle = history.pool.isRaised handle

/-- What comes of the flags while the task of a handle is dispatched. -/
structure PerDispatch (history : FlagHistory n) (own : Fin n) : Prop where
  /-- The handles of the task, of the scheduler and of the context agree ever after. -/
  agree : ∀ {m : Nat} (later : FlagHistory m), (history.handOver own).Continues later →
    later.pool.isRaised n = later.pool.isRaised (n + 1) ∧
      later.pool.isRaised own = later.pool.isRaised (n + 1)
  /-- The context polls what the end of the slice raises. -/
  polled : ∀ interruption executed,
    (history.during own interruption executed).pool.isRaised (n + 1) = interruption.poll executed
  /-- The task is left with the flag that its context saw last. -/
  kept : ∀ (interruption : Interruption) program processor run raised,
    interruption.carryOut program processor = .joined run raised →
      (history.during own interruption run.report.retired).pool.isRaised own = raised
  /-- Handles of other families read what they did. -/
  others : ∀ interruption executed, ∀ handle < n, history.founder handle ≠ history.founder own →
    (history.during own interruption executed).pool.isRaised handle = history.pool.isRaised handle

theorem readings_eq (history : FlagHistory n) :
    history.pool.readings = (List.range n).map history.pool.isRaised := by
  refine List.ext_getElem? fun handle => ?_
  rw [FlagPool.readings, List.getElem?_map, List.getElem?_map]
  by_cases inside : handle < n
  · obtain ⟨flag, held⟩ := history.exists_flag inside
    rw [held, List.getElem?_range inside, Option.map_some, Option.map_some, isRaised_eq held]
  · rw [List.getElem?_eq_none (by rw [length_handles]; omega),
      List.getElem?_eq_none (by rw [List.length_range]; omega)]
    rfl

theorem perFamily (history : FlagHistory n) : history.PerFamily where
  readings := history.readings_eq
  last := by
    intro handle inside
    rw [isRaised_eq_lastPut history inside]
    cases history.lastPut (history.family handle) <;> simp
  agree := fun later continues handle inside other inside' kin => continues.agree inside inside' kin
  apart := by
    intro given value handle inside stranger
    rw [isRaised_put given value inside, if_neg (by rw [family, decide_eq_true_eq]; exact stranger)]
  created := by
    refine ⟨history.isRaised_create_self, fun handle inside => ⟨?_, isRaised_create_of_lt inside⟩⟩
    rw [founder_create_of_lt inside, founder_create_self]
    exact Nat.ne_of_lt (history.founder_lt inside)
  cloned := by
    intro original
    refine ⟨?_, fun handle inside => ?_⟩
    · rw [isRaised_share history original (Nat.lt_succ_self n), traced, if_pos rfl]
    · rw [isRaised_share history original (Nat.lt_succ_of_lt inside), traced_of_lt _ inside]

theorem perDispatch (history : FlagHistory n) (own : Fin n) : history.PerDispatch own where
  agree := by
    intro m later continues
    have founder := history.founder_handOver own
    have scheduler : (history.handOver own).founder n = history.founder own := by
      rw [founder, before_scheduler]
    have context : (history.handOver own).founder (n + 1) = history.founder own := by
      rw [founder, before_context]
    have task : (history.handOver own).founder own = history.founder own := by
      rw [founder, before_of_lt own own.isLt]
    exact ⟨continues.agree (by omega) (by omega) (scheduler.trans context.symm),
      continues.agree (by omega) (by omega) (task.trans context.symm)⟩
  polled := by
    intro interruption executed
    rw [isRaised_during history own interruption executed (by omega), before_context, family,
      if_pos (decide_eq_true rfl)]
  kept := by
    intro interruption program processor run raised joined
    rw [isRaised_during history own interruption _ (by omega), before_of_lt own own.isLt, family,
      if_pos (decide_eq_true rfl), poll_of_joined joined]
  others := by
    intro interruption executed handle inside stranger
    rw [isRaised_during history own interruption executed (by omega), before_of_lt own inside,
      if_neg (by rw [family, decide_eq_true_eq]; exact stranger.symm)]

end FlagHistory

/-! ## Tasks -/

/-- The flag of one task is no flag of another. -/
theorem Registry.get?_setFlag_of_ne {id other : TaskId} (registry : Registry) (raised : Bool)
    (ne : id ≠ other) : (registry.setFlag id raised).get? other = registry.get? other := by
  rw [setFlag]
  split
  · rename_i task found
    refine get?_set_of_ne ?_
    rw [id_of_get? found]
    exact ne
  · rfl

/-- A dispatch, however it ends, leaves the other tasks alone. -/
theorem Scheduler.get?_dispatch_other {id other : TaskId} (interruption : Interruption)
    (s : Scheduler) (ne : id ≠ other) :
    (dispatch interruption id s).2.registry.get? other = s.registry.get? other := by
  cases ends : dispatch interruption id s with
  | mk result s' =>
    rcases dispatch_cases ends with
      ⟨_, rfl, _⟩ | ⟨task, processor, begun, found, began, ends⟩
    · rfl
    · have begun_id : begun.id = id := Registry.id_of_begin found began
      rcases ends with ⟨recorded, _, _, rfl⟩ | ⟨run, raised, _, _, rfl⟩
      · rw [registry_recordRun, registry_handOver, Registry.get?_set_of_ne (begun_id ▸ ne)]
      · rw [registry_close, registry_handOver, Registry.get?_set_of_ne (by exact begun_id ▸ ne),
          Registry.get?_set_of_ne (begun_id ▸ ne)]

namespace FlagHistory

/-- Whatever was done with flags, each family of handles acts as one and apart from the others. So
the handles of a dispatch agree, and neither a dispatch of a task nor a change of its flag shows in
another task. -/
theorem act_per_family :
    (∀ {n : Nat} (history : FlagHistory n),
      history.PerFamily ∧ ∀ own, history.PerDispatch own) ∧
    (∀ (registry : Registry) (id other : TaskId) (raised : Bool), id ≠ other →
      (registry.setFlag id raised).get? other = registry.get? other) ∧
    (∀ (interruption : Interruption) (id other : TaskId) (s : Scheduler), id ≠ other →
      (s.dispatch interruption id).2.registry.get? other = s.registry.get? other) :=
  ⟨fun history => ⟨history.perFamily, history.perDispatch⟩,
    fun registry _ _ raised ne => registry.get?_setFlag_of_ne raised ne,
    fun interruption _ _ s ne => s.get?_dispatch_other interruption ne⟩

/-- Two flags, of which the first has a clone and a clone of that, made after it was raised. -/
def cloned : FlagHistory 4 :=
  (((start.create.share 0).put 1 true).create).share 1

/-- A scheduler with two tasks, of which the first was dispatched once. -/
def calmLife : Scheduler :=
  Scheduler.after Scheduler.calmPlan .standard Scheduler.calmCalls

/-- The clone of a clone reads what was given before it was made, its family changes with it, and
the other flag does not. Neither does the second of two tasks change with the first. -/
theorem act_per_family_cloned :
    cloned.pool.readings = [true, true, false, true] ∧
      cloned.founder 0 = cloned.founder 3 ∧
      (cloned.put 3 false).pool.isRaised 0 = (cloned.put 3 false).pool.isRaised 3 ∧
      cloned.founder 3 ≠ cloned.founder 2 ∧
      (cloned.put 3 false).pool.isRaised 2 = cloned.pool.isRaised 2 ∧
      ((calmLife.registry.setFlag 0 true).get? 1 = calmLife.registry.get? 1) ∧
      (calmLife.dispatch (.expiry 1) 0).2.registry.get? 1 = calmLife.registry.get? 1 := by
  obtain ⟨family, _⟩ := act_per_family.1 cloned
  exact ⟨rfl, rfl, family.agree _ (.put 3 false .refl) 0 (by decide) 3 (by decide) rfl, by decide,
    family.apart 3 false 2 (by decide) (by decide), act_per_family.2.1 _ 0 1 true (by decide),
    act_per_family.2.2 (.expiry 1) 0 1 _ (by decide)⟩

end FlagHistory

end TimeShare
