import Mathlib.Logic.Function.Basic
import SmsPlatform.Lib.Expiring
import SmsPlatform.Lib.Records

/-!
# Read-through caches that are shared

The source of a read-through cache may change at any time.  Any number of readers ask the cache, query the source where the
cache has nothing that they accept, and keep what they got for a limited time, each at its own pace; a kept answer may be
dropped at any time.  So a reader may keep an answer that the source no longer gives, even after it has been dropped.  Yet
once a key is empty, and no reader still holds an answer for it, every answer has been right at some later moment, and not
long ago (`answers_right`).

The record of a run has the source after every step, and the answers.
-/

namespace ReadThrough

open Expiring Transition

/-- A reader for which the cache had nothing; once it has queried the source, the answer and the time of the query. -/
structure Reader (κ ρ : Type*) where
  key : κ
  queried : Option (ρ × Int)

structure Shared (σ κ ρ ι : Type*) where
  source : σ
  cells : κ → Cell ρ
  readers : ι → Option (Reader κ ρ)
  time : Int

/-- `keep` ends a reader, `crash` ends it before. -/
inductive Move (σ κ ρ ι : Type*)
  | write (source : σ)
  | drop (key : κ)
  | ask (reader : ι) (key : κ)
  | query (reader : ι) (answer : ρ)
  | keep (reader : ι)
  | crash (reader : ι)

/-- A move at a time. -/
structure Access (σ κ ρ ι : Type*) where
  now : Int
  move : Move σ κ ρ ι

inductive Event (σ κ ρ : Type*)
  | source (now : Int) (source : σ)
  | answer (key : κ) (answer : ρ) (now : Int)
  deriving DecidableEq

variable {σ κ ρ ι : Type*}

/-! ### The steps -/

section Steps

variable [DecidableEq κ] [DecidableEq ι]

variable (answers : σ → κ → ρ → Prop) [∀ source key answer, Decidable (answers source key answer)] (accepts : ρ → Bool)
  (ttl : Int) (shared : Shared σ κ ρ ι)

/-- What a reader takes from the cache. -/
def Shared.hit (now : Int) (key : κ) : Option ρ := ((shared.cells key).get now).filter accepts

def Shared.move (now : Int) : Move σ κ ρ ι → Option (Shared σ κ ρ ι)
  | .write source => some { shared with source := source }
  | .drop key => some { shared with cells := Function.update shared.cells key none }
  | .ask reader key =>
    if (shared.readers reader).isSome then none
    else if (shared.hit accepts now key).isSome then some shared
    else some { shared with readers := Function.update shared.readers reader (some ⟨key, none⟩) }
  | .query reader answer =>
    match shared.readers reader with
    | some ⟨key, none⟩ =>
      if answers shared.source key answer then
        some { shared with readers := Function.update shared.readers reader (some ⟨key, some (answer, now)⟩) }
      else none
    | _ => none
  | .keep reader =>
    match shared.readers reader with
    | some ⟨key, some (answer, _)⟩ =>
      some { shared with
        cells := Function.update shared.cells key (Cell.set now ttl answer)
        readers := Function.update shared.readers reader none }
    | _ => none
  | .crash reader => some { shared with readers := Function.update shared.readers reader none }

/-- Moves come at non-decreasing times. -/
def Shared.step (access : Access σ κ ρ ι) : Option (Shared σ κ ρ ι) :=
  if shared.time ≤ access.now then
    (shared.move answers accepts ttl access.now access.move).map fun after => { after with time := access.now }
  else none

/-- The answer that a move returns. -/
def Shared.returned (access : Access σ κ ρ ι) : Option (κ × ρ) :=
  match access.move with
  | .ask _ key => (shared.hit accepts access.now key).map fun answer => (key, answer)
  | .keep reader =>
    (shared.readers reader).bind fun state => state.queried.map fun queried => (state.key, queried.1)
  | _ => none

def events (shared : Shared σ κ ρ ι) (access : Access σ κ ρ ι) (after : Shared σ κ ρ ι) : List (Event σ κ ρ) :=
  .source access.now after.source ::
    ((shared.returned accepts access).map fun returned => .answer returned.1 returned.2 access.now).toList

/-- How long ago the answer was queried that a move keeps. -/
def Shared.age (access : Access σ κ ρ ι) : Option Int :=
  match access.move with
  | .keep reader =>
    (shared.readers reader).bind fun state => state.queried.map fun queried => access.now - queried.2
  | _ => none

/-- Answers are kept within this time. -/
def Prompt (delay : Int) (shared : Shared σ κ ρ ι) (access : Access σ κ ρ ι) : Prop :=
  ∀ age ∈ shared.age access, age ≤ delay

instance (delay : Int) (shared : Shared σ κ ρ ι) (access : Access σ κ ρ ι) : Decidable (Prompt delay shared access) :=
  inferInstanceAs (Decidable (∀ age ∈ shared.age access, age ≤ delay))

end Steps

theorem of_update_eq_some {α β : Type*} [DecidableEq α] {f : α → Option β} {a b : α} {value : Option β} {x : β}
    (h : Function.update f a value b = some x) : (b = a ∧ value = some x) ∨ f b = some x := by
  by_cases hb : b = a
  · subst hb
    rw [Function.update_self] at h
    exact .inl ⟨rfl, h⟩
  · rw [Function.update_of_ne hb] at h
    exact .inr h

/-! ### Answers that have been right -/

section Right

variable {answers : σ → κ → ρ → Prop} {record more : List (Event σ κ ρ)} {key : κ} {answer : ρ}
  {first first' last last' : Int}

/-- The source has given the answer at a time of the run between two times. -/
def Right (answers : σ → κ → ρ → Prop) (record : List (Event σ κ ρ)) (key : κ) (answer : ρ) (first last : Int) : Prop :=
  ∃ now source, Event.source now source ∈ record ∧ first ≤ now ∧ now ≤ last ∧ answers source key answer

theorem Right.mono (h : Right answers record key answer first last) (hfirst : first' ≤ first) (hlast : last ≤ last')
    (more : List (Event σ κ ρ)) : Right answers (record ++ more) key answer first' last' := by
  obtain ⟨now, source, hsource, hafter, hbefore, hanswer⟩ := h
  exact ⟨now, source, List.mem_append_left _ hsource, hfirst.trans hafter, hbefore.trans hlast, hanswer⟩

theorem Right.within (h : Right answers record key answer first last) (hfirst : first' ≤ first) (hlast : last ≤ last') :
    Right answers record key answer first' last' := by
  have hmono := h.mono hfirst hlast []
  rwa [List.append_nil] at hmono

/-- What every source has given since a time. -/
theorem Right.settled (h : Right answers record key answer first last) {p : σ → Prop}
    (hp : ∀ now source, Event.source now source ∈ record → first ≤ now → p source) :
    ∃ source, p source ∧ answers source key answer := by
  obtain ⟨now, source, hsource, hafter, -, hanswer⟩ := h
  exact ⟨source, hp now source hsource hafter, hanswer⟩

end Right

/-- What is kept under a key, what its readers hold, and what has been returned for it. -/
structure Fresh (answers : σ → κ → ρ → Prop) (ttl delay : Int) (key : κ) (shared : Shared σ κ ρ ι)
    (record : List (Event σ κ ρ)) : Prop where
  cell : ∀ entry, shared.cells key = some entry → ∃ deadline, entry.deadline = some deadline ∧
    Right answers record key entry.value (deadline - ttl - delay) shared.time
  reader : ∀ reader state answer queried, shared.readers reader = some state → state.key = key →
    state.queried = some (answer, queried) → Right answers record key answer queried shared.time
  answer : ∀ answer now, .answer key answer now ∈ record → Right answers record key answer (now - ttl - delay) now

section Returns

variable {answers : σ → κ → ρ → Prop} {accepts : ρ → Bool} {ttl delay now : Int} {key : κ} {shared : Shared σ κ ρ ι}
  {record : List (Event σ κ ρ)} {access : Access σ κ ρ ι}

theorem Fresh.start (hcell : shared.cells key = none)
    (hreaders : ∀ reader state, shared.readers reader = some state → state.key = key → state.queried = none) :
    Fresh answers ttl delay key shared [] := by
  refine ⟨?_, ?_, ?_⟩
  · intro entry hentry
    rw [hcell] at hentry
    cases hentry
  · intro reader state answer queried hstate hkey hqueried
    rw [hreaders reader state hstate hkey] at hqueried
    cases hqueried
  · intro answer now hanswer
    cases hanswer

theorem Prompt.le (h : Prompt delay shared access) {reader : ι} (hmove : access.move = .keep reader) {state : Reader κ ρ}
    (hstate : shared.readers reader = some state) {answer : ρ} {queried : Int}
    (hqueried : state.queried = some (answer, queried)) : access.now ≤ queried + delay := by
  have hage : shared.age access = some (access.now - queried) := by
    unfold Shared.age
    rw [hmove]
    dsimp only
    rw [hstate, Option.bind_some, hqueried]
    rfl
  have hle := h _ hage
  omega

theorem Prompt.mono {delay' : Int} (h : Prompt delay shared access) (hle : delay ≤ delay') :
    Prompt delay' shared access :=
  fun age hage => (h age hage).trans hle

theorem exists_prompt (shared : Shared σ κ ρ ι) (access : Access σ κ ρ ι) : ∃ delay, Prompt delay shared access := by
  cases hage : shared.age access with
  | none =>
    refine ⟨0, fun age hsome => ?_⟩
    rw [hage] at hsome
    cases hsome
  | some age =>
    refine ⟨age, fun age' hsome => ?_⟩
    rw [hage] at hsome
    exact (Option.some.inj hsome).ge

/-- A run is finite, so its readers take a bounded time. -/
theorem exists_prompt_runs {β : Type*} {step : Recorded (Shared σ κ ρ ι) β → Access σ κ ρ ι → Option (Recorded _ β)}
    {ok : Recorded (Shared σ κ ρ ι) β → Access σ κ ρ ι → Prop} {s t : Recorded (Shared σ κ ρ ι) β}
    (h : Runs step ok s t) : ∃ delay, Runs step (fun shared access => Prompt delay shared.state access) s t := by
  induction h with
  | refl => exact ⟨0, .refl⟩
  | @tail u v a hrun hok hstep ih =>
    obtain ⟨delay, hprompt⟩ := ih
    obtain ⟨delay', hlast⟩ := exists_prompt u.state a
    have hbefore := hprompt.mono fun shared access hok => Prompt.mono hok (le_max_left delay delay')
    exact ⟨max delay delay', .tail a hbefore (hlast.mono (le_max_right delay delay')) hstep⟩

/-- A hit is right: it was kept for the time `ttl`, soon after its query. -/
theorem Fresh.hit (h : Fresh answers ttl delay key shared record) (htime : shared.time ≤ now) {answer : ρ}
    (hhit : shared.hit accepts now key = some answer) : Right answers record key answer (now - ttl - delay) now := by
  obtain ⟨hget, -⟩ := Option.filter_eq_some_iff.1 hhit
  obtain ⟨entry, hentry, rfl, hlive⟩ := Cell.get_eq_some.1 hget
  obtain ⟨deadline, hdeadline, hright⟩ := h.cell entry hentry
  have hlt := hlive deadline hdeadline
  exact hright.within (by omega) htime

/-- Whatever a step returns is right. -/
theorem Fresh.returned (h : Fresh answers ttl delay key shared record) (httl : 0 ≤ ttl)
    (htime : shared.time ≤ access.now) (hprompt : Prompt delay shared access) {answer : ρ}
    (hreturned : shared.returned accepts access = some (key, answer)) :
    Right answers record key answer (access.now - ttl - delay) access.now := by
  unfold Shared.returned at hreturned
  cases hmove : access.move with
  | ask reader other =>
    rw [hmove] at hreturned
    obtain ⟨value, hhit, hpair⟩ := Option.map_eq_some_iff.1 hreturned
    obtain ⟨rfl, rfl⟩ := Prod.mk.inj hpair
    exact h.hit htime hhit
  | keep reader =>
    rw [hmove] at hreturned
    obtain ⟨state, hstate, hreturned⟩ := Option.bind_eq_some_iff.1 hreturned
    obtain ⟨⟨value, queried⟩, hqueried, hpair⟩ := Option.map_eq_some_iff.1 hreturned
    obtain ⟨hkey, rfl⟩ := Prod.mk.inj hpair
    have hlate := hprompt.le hmove hstate hqueried
    have hright := h.reader reader state value queried hstate hkey hqueried
    exact hright.within (by omega) htime
  | _ =>
    rw [hmove] at hreturned
    cases hreturned

end Returns

section Runs

variable [DecidableEq κ] [DecidableEq ι] {answers : σ → κ → ρ → Prop}
  [∀ source key answer, Decidable (answers source key answer)] {accepts : ρ → Bool} {ttl delay now : Int} {key : κ}
  {shared after : Shared σ κ ρ ι} {record : List (Event σ κ ρ)} {access : Access σ κ ρ ι} {move : Move σ κ ρ ι}

/-- Only `keep` writes a cell. -/
theorem cells_of_move (hmove : shared.move answers accepts ttl now move = some after) {entry : Entry ρ}
    (hentry : after.cells key = some entry) :
    shared.cells key = some entry ∨ ∃ reader answer queried, move = .keep reader ∧
      shared.readers reader = some ⟨key, some (answer, queried)⟩ ∧ entry = ⟨answer, some (now + ttl)⟩ := by
  unfold Shared.move at hmove
  cases move with
  | write source =>
    obtain rfl := Option.some.inj hmove
    exact .inl hentry
  | drop other =>
    obtain rfl := Option.some.inj hmove
    rcases of_update_eq_some hentry with ⟨-, hnone⟩ | hentry
    · cases hnone
    · exact .inl hentry
  | ask reader other =>
    dsimp only at hmove
    split at hmove
    · cases hmove
    · split at hmove
      · obtain rfl := Option.some.inj hmove
        exact .inl hentry
      · obtain rfl := Option.some.inj hmove
        exact .inl hentry
  | query reader answer =>
    dsimp only at hmove
    split at hmove
    · split at hmove
      · obtain rfl := Option.some.inj hmove
        exact .inl hentry
      · cases hmove
    · cases hmove
  | keep reader =>
    dsimp only at hmove
    split at hmove
    · rename_i other answer queried hstate
      obtain rfl := Option.some.inj hmove
      rcases of_update_eq_some hentry with ⟨rfl, hset⟩ | hentry
      · exact .inr ⟨reader, answer, queried, rfl, hstate, (Option.some.inj hset).symm⟩
      · exact .inl hentry
    · cases hmove
  | crash reader =>
    obtain rfl := Option.some.inj hmove
    exact .inl hentry

/-- Only `query` gives a reader an answer, and the source gives it then. -/
theorem readers_of_move (hmove : shared.move answers accepts ttl now move = some after) {reader : ι}
    {state : Reader κ ρ} (hstate : after.readers reader = some state) {answer : ρ} {queried : Int}
    (hqueried : state.queried = some (answer, queried)) :
    shared.readers reader = some state ∨
      (queried = now ∧ after.source = shared.source ∧ answers shared.source state.key answer) := by
  unfold Shared.move at hmove
  cases move with
  | write source =>
    obtain rfl := Option.some.inj hmove
    exact .inl hstate
  | drop other =>
    obtain rfl := Option.some.inj hmove
    exact .inl hstate
  | ask asking other =>
    dsimp only at hmove
    split at hmove
    · cases hmove
    · split at hmove
      · obtain rfl := Option.some.inj hmove
        exact .inl hstate
      · obtain rfl := Option.some.inj hmove
        rcases of_update_eq_some hstate with ⟨-, hasked⟩ | hstate
        · obtain rfl := Option.some.inj hasked
          cases hqueried
        · exact .inl hstate
  | query asking value =>
    dsimp only at hmove
    split at hmove
    · split at hmove
      · rename_i hanswers
        obtain rfl := Option.some.inj hmove
        rcases of_update_eq_some hstate with ⟨-, hgot⟩ | hstate
        · obtain rfl := Option.some.inj hgot
          obtain ⟨rfl, rfl⟩ := Prod.mk.inj (Option.some.inj hqueried)
          exact .inr ⟨rfl, rfl, hanswers⟩
        · exact .inl hstate
      · cases hmove
    · cases hmove
  | keep asking =>
    dsimp only at hmove
    split at hmove
    · obtain rfl := Option.some.inj hmove
      rcases of_update_eq_some hstate with ⟨-, hnone⟩ | hstate
      · cases hnone
      · exact .inl hstate
    · cases hmove
  | crash asking =>
    obtain rfl := Option.some.inj hmove
    rcases of_update_eq_some hstate with ⟨-, hnone⟩ | hstate
    · cases hnone
    · exact .inl hstate

/-- The source is what has been written last. -/
theorem source_of_step {p : σ → Prop} (hs : p shared.source) (hwrites : ∀ source, access.move = .write source → p source)
    (hstep : shared.step answers accepts ttl access = some after) : p after.source := by
  obtain ⟨-, hsome⟩ := Option.ite_none_right_eq_some.1 hstep
  obtain ⟨moved, hmove, rfl⟩ := Option.map_eq_some_iff.1 hsome
  show p moved.source
  unfold Shared.move at hmove
  cases hcall : access.move with
  | write source =>
    rw [hcall] at hmove
    obtain rfl := Option.some.inj hmove
    exact hwrites source hcall
  | drop key =>
    rw [hcall] at hmove
    obtain rfl := Option.some.inj hmove
    exact hs
  | crash reader =>
    rw [hcall] at hmove
    obtain rfl := Option.some.inj hmove
    exact hs
  | _ =>
    rw [hcall] at hmove
    dsimp only at hmove
    repeat' split at hmove
    all_goals first | (cases hmove; done) | (cases hmove; exact hs)

theorem Fresh.step (h : Fresh answers ttl delay key shared record) (httl : 0 ≤ ttl) (hprompt : Prompt delay shared access)
    (hstep : shared.step answers accepts ttl access = some after) :
    Fresh answers ttl delay key after (record ++ events accepts shared access after) := by
  obtain ⟨htime, hsome⟩ := Option.ite_none_right_eq_some.1 hstep
  obtain ⟨moved, hmove, rfl⟩ := Option.map_eq_some_iff.1 hsome
  refine ⟨?_, ?_, ?_⟩
  · intro entry hentry
    rcases cells_of_move hmove hentry with hkept | ⟨reader, answer, queried, hkeep, hstate, rfl⟩
    · obtain ⟨deadline, hdeadline, hright⟩ := h.cell entry hkept
      exact ⟨deadline, hdeadline, hright.mono (Int.le_refl _) htime _⟩
    · have hlate := hprompt.le hkeep hstate rfl
      have hright := h.reader reader _ answer queried hstate rfl rfl
      exact ⟨access.now + ttl, rfl, hright.mono (by omega) htime _⟩
  · intro reader state answer queried hstate hkey hqueried
    rcases readers_of_move hmove hstate hqueried with hbefore | ⟨rfl, hsame, hanswers⟩
    · exact (h.reader reader state answer queried hbefore hkey hqueried).mono (Int.le_refl _) htime _
    · refine ⟨access.now, moved.source, ?_, Int.le_refl _, Int.le_refl _, ?_⟩
      · exact List.mem_append_right _ (List.mem_cons_self ..)
      · rw [hsame, ← hkey]
        exact hanswers
  · intro answer now hanswer
    rcases List.mem_append.1 hanswer with hold | hnew
    · exact (h.answer answer now hold).mono (Int.le_refl _) (Int.le_refl _) _
    · rcases List.mem_cons.1 hnew with hsource | hnew
      · cases hsource
      · obtain ⟨returned, hreturned, heq⟩ := Option.map_eq_some_iff.1 (Option.mem_toList.1 hnew)
        obtain ⟨rfl, rfl, rfl⟩ := Event.answer.inj heq
        exact (h.returned httl htime hprompt hreturned).mono (Int.le_refl _) (Int.le_refl _) _

end Runs

/-- From where a key is empty and no reader holds an answer for it, everything that is returned for the key has been right
at some moment of the run, at most `ttl + delay` ago. -/
theorem answers_right [DecidableEq κ] [DecidableEq ι] {answers : σ → κ → ρ → Prop}
    [∀ source key answer, Decidable (answers source key answer)] {accepts : ρ → Bool} {ttl delay : Int} (httl : 0 ≤ ttl)
    {key : κ} {shared : Shared σ κ ρ ι} {after : Recorded (Shared σ κ ρ ι) (Event σ κ ρ)}
    (hrun : Runs (recorded (Shared.step answers accepts ttl) (events accepts))
      (fun shared access => Prompt delay shared.state access) ⟨shared, []⟩ after) (hcell : shared.cells key = none)
    (hreaders : ∀ reader state, shared.readers reader = some state → state.key = key → state.queried = none)
    {answer : ρ} {now : Int} (hanswer : .answer key answer now ∈ after.record) :
    Right answers after.record key answer (now - ttl - delay) now := by
  have hfresh : Fresh answers ttl delay key after.state after.record := by
    refine @Runs.record_invariant _ _ _ _ _ (Prompt delay) (Fresh answers ttl delay key) (fun _ => True) _ _ hrun
      (fun _ _ => trivial) (Fresh.start hcell hreaders) ?_
    intro shared record access after _ h hprompt hstep
    exact h.step httl hprompt hstep
  exact hfresh.answer answer now hanswer

/-- From there on, what holds of the source, and of every source that is written, holds of one that has given the answer. -/
theorem answers_settled [DecidableEq κ] [DecidableEq ι] {answers : σ → κ → ρ → Prop}
    [∀ source key answer, Decidable (answers source key answer)] {accepts : ρ → Bool} {ttl : Int} (httl : 0 ≤ ttl)
    {p : σ → Prop} {key : κ} {shared : Shared σ κ ρ ι} {after : Recorded (Shared σ κ ρ ι) (Event σ κ ρ)}
    (hrun : Runs (recorded (Shared.step answers accepts ttl) (events accepts))
      (fun _ access => ∀ source, access.move = .write source → p source) ⟨shared, []⟩ after) (hs : p shared.source)
    (hcell : shared.cells key = none)
    (hreaders : ∀ reader state, shared.readers reader = some state → state.key = key → state.queried = none)
    {answer : ρ} {now : Int} (hanswer : .answer key answer now ∈ after.record) :
    ∃ source, p source ∧ answers source key answer := by
  have hsources : p after.state.source ∧ ∀ now source, .source now source ∈ after.record → p source := by
    refine @Runs.invariant _ _ _ _ (fun t => p t.state.source ∧ ∀ now source, .source now source ∈ t.record → p source)
      _ _ hrun ⟨hs, fun now source hsource => by cases hsource⟩ ?_
    rintro before access after ⟨hbefore, hold⟩ hwrites hstep
    obtain ⟨hmove, hrecord⟩ := recorded_eq_some hstep
    have hafter := source_of_step hbefore hwrites hmove
    refine ⟨hafter, fun now source hsource => ?_⟩
    rw [hrecord] at hsource
    rcases List.mem_append.1 hsource with hsource | hsource
    · exact hold now source hsource
    · rcases List.mem_cons.1 hsource with heq | hsource
      · obtain ⟨-, rfl⟩ := Event.source.inj heq
        exact hafter
      · obtain ⟨returned, -, heq⟩ := Option.map_eq_some_iff.1 (Option.mem_toList.1 hsource)
        cases heq
  obtain ⟨delay, hprompt⟩ := exists_prompt_runs hrun
  exact (answers_right httl hprompt hcell hreaders hanswer).settled fun now source hsource _ =>
    hsources.2 now source hsource

end ReadThrough
