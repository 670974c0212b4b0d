import Mathlib.Data.List.DropRight
import Mathlib.Tactic.Lemma
import Estate.Session

/-!
What the caches hold after a session of any length.

A cache is what the log of the session says: under a name stands the first mapping that a load or
an insertion brought since the cache was last cleared. What a look-up comes to, and whether the
directory is asked for a mapping, follows from it.
-/

namespace Estate

/-- An action of an extractor, each of which has options of its own. -/
structure Turn where
  options : Options
  action : Action

/-- A turn, the directory as it stood then, and what the turn came to. -/
structure Event where
  directory : Directory
  turn : Turn
  outcome : Outcome

namespace Action

/-- The cache that an action is on. -/
def cache? : Action → Option Nat
  | find i _ | fetch i _ | insert i _ _ | clear i | extract i _ _ _ => some i
  | write _ _ | makeFolder _ | remove _ | load _ => none

/-- The action is on no other cache. -/
def isWithin (i : Nat) (a : Action) : Bool := a.cache?.all (· == i)

/-- The cache and the name under which an action looks for the mapping that it needs. -/
def needs? : Action → Option (Nat × String)
  | fetch i name | extract i name _ _ => some (i, name)
  | _ => none

/-- What an action comes to that is given the mapping it needs. -/
def given (options : Options) (m : Mapping) : Action → Outcome
  | extract _ _ source address => .extracted (.ofText source address m options)
  | _ => .found (some m)

def clears (i : Nat) : Action → Bool
  | clear j => j == i
  | _ => false

/-- The mapping that an action has for a name of a cache: the one it puts there, or the one that it
loads where there is none yet. -/
def brings? [Regex.Engine] (d : Directory) (i : Nat) (name : String) : Action → Option Mapping
  | insert j n m => if (j, n) = (i, name) then some m else none
  | fetch j n | extract j n _ _ => if (j, n) = (i, name) then (d.load n).toOption else none
  | _ => none

end Action

def Turn.isWithin (i : Nat) (t : Turn) : Bool := t.action.isWithin i

def Event.isWithin (i : Nat) (e : Event) : Bool := e.turn.isWithin i

/-- The first mapping that a log brings for a name since it last clears the cache. -/
def first? [Regex.Engine] (log : List Event) (i : Nat) (name : String) : Option Mapping :=
  (log.rtakeWhile fun e => !e.turn.action.clears i).findSome? fun e =>
    e.turn.action.brings? e.directory i name

/-- The directory is asked by an action behind a log. -/
def Action.asks [Regex.Engine] (log : List Event) : Action → Bool
  | .load _ => true
  | a => match a.needs? with
    | some (i, name) => (first? log i name).isNone
    | none => false

lemma first?_concat [Regex.Engine] (log : List Event) (e : Event) (i : Nat) (name : String) :
    first? (log ++ [e]) i name =
      if e.turn.action.clears i then none
      else (first? log i name).or (e.turn.action.brings? e.directory i name) := by
  unfold first?
  rw [List.rtakeWhile_concat]
  cases e.turn.action.clears i with
  | true => rfl
  | false =>
    rw [if_pos (by rfl), if_neg Bool.false_ne_true, List.findSome?_append,
      List.findSome?_singleton]

namespace Session

def withOptions (s : Session) (o : Options) : Session := { s with options := o }

variable {s : Session} {i : Nat} {name : String}

/-! ### Changes of a session -/

lemma caches_withCache (s : Session) (j : Nat) (c : Cache) (i : Nat) :
    (s.withCache j c).caches i = if i = j then c else s.caches i := rfl

lemma fst_keep (s : Session) (i : Nat) (name : String) (m : Mapping) :
    (s.keep i name m).1 = (Keyed.get? (s.caches i) name).getD m := by
  unfold keep
  simp only [Keyed.get?_insertNew, if_true, Option.getD_some]

lemma caches_keep (s : Session) (i j : Nat) (n : String) (m : Mapping) :
    (s.keep j n m).2.caches i =
      if i = j then Keyed.insertNew (s.caches j) n m else s.caches i := rfl

lemma get?_keep (s : Session) (i j : Nat) (n name : String) (m : Mapping) :
    Keyed.get? ((s.keep j n m).2.caches i) name =
      (Keyed.get? (s.caches i) name).or (if (j, n) = (i, name) then some m else none) := by
  rw [caches_keep]
  by_cases hi : i = j
  · subst hi
    rw [if_pos rfl, Keyed.get?_insertNew]
    by_cases hname : name = n
    · subst hname
      rw [if_pos rfl, if_pos rfl]
      cases Keyed.get? (s.caches i) name <;> rfl
    · rw [if_neg hname, if_neg (by simpa using Ne.symm hname), Option.or_none]
  · rw [if_neg hi, if_neg (by simpa using fun h => absurd h.symm hi), Option.or_none]

@[simp] lemma caches_change (s : Session) (changed : Option Directory) :
    (s.change changed).2.caches = s.caches := by
  cases changed <;> rfl

@[simp] lemma asked_change (s : Session) (changed : Option Directory) :
    (s.change changed).2.asked = s.asked := by
  cases changed <;> rfl

/-- The sessions cannot be told apart through a cache. -/
structure SameAt (i : Nat) (s t : Session) : Prop where
  directory : s.directory = t.directory
  cache : s.caches i = t.caches i

namespace SameAt

variable {t : Session}

lemma keep (h : SameAt i s t) (n : String) (m : Mapping) :
    (s.keep i n m).1 = (t.keep i n m).1 ∧ SameAt i (s.keep i n m).2 (t.keep i n m).2 := by
  refine ⟨?_, h.directory, ?_⟩
  · rw [fst_keep, fst_keep, h.cache]
  · rw [caches_keep, caches_keep, if_pos rfl, if_pos rfl, h.cache]

lemma change (h : SameAt i s t) (changed : Option Directory) :
    (s.change changed).1 = (t.change changed).1 ∧
      SameAt i (s.change changed).2 (t.change changed).2 := by
  cases changed with
  | none => exact ⟨rfl, h⟩
  | some d => exact ⟨rfl, rfl, h.cache⟩

lemma withCache (h : SameAt i s t) {j : Nat} (hj : ¬j = i) (c : Cache) :
    SameAt i (s.withCache j c) t :=
  ⟨h.directory, (if_neg fun h => hj h.symm).trans h.cache⟩

lemma withOptions (h : SameAt i s t) (o : Options) :
    SameAt i (s.withOptions o) (t.withOptions o) := ⟨h.directory, h.cache⟩

end SameAt

variable [Regex.Engine]

def take (s : Session) (t : Turn) : Outcome × Session := (s.withOptions t.options).run t.action

/-- The session behind some turns. -/
def after (s : Session) (turns : List Turn) : Session := turns.foldl (fun s t => (s.take t).2) s

def event (s : Session) (t : Turn) : Event := ⟨s.directory, t, (s.take t).1⟩

/-- The log of some turns. -/
def history (s : Session) : List Turn → List Event
  | [] => []
  | t :: rest => s.event t :: (s.take t).2.history rest

lemma after_concat (s : Session) (turns : List Turn) (t : Turn) :
    s.after (turns ++ [t]) = ((s.after turns).take t).2 := List.foldl_concat ..

lemma history_concat (s : Session) (turns : List Turn) (t : Turn) :
    s.history (turns ++ [t]) = s.history turns ++ [(s.after turns).event t] := by
  induction turns generalizing s with
  | nil => rfl
  | cons u rest ih => exact congrArg (s.event u :: ·) (ih _)

/-! ### One action -/

lemma fetch_kept {m : Mapping} (h : Keyed.get? (s.caches i) name = some m) :
    s.fetch i name = (.ok m, s) := by
  unfold fetch
  rw [h]

lemma fetch_loaded {m : Mapping} (h : Keyed.get? (s.caches i) name = none)
    (hload : s.directory.load name = .ok m) :
    s.fetch i name = (.ok m, ((s.load name).2.keep i name m).2) := by
  have hkept : ((s.load name).2.keep i name m).1 = m := by
    rw [fst_keep, load, h, Option.getD_none]
  unfold fetch
  rw [h, load, hload]
  exact congrArg (Except.ok ·, _) hkept

lemma fetch_failed {e : MappingError} (h : Keyed.get? (s.caches i) name = none)
    (hload : s.directory.load name = .error e) :
    s.fetch i name = (.error e, (s.load name).2) := by
  unfold fetch load
  simp only [h, hload]

/-- The three ways of a fetch: the mapping is there, or it is loaded and kept, or it cannot be
loaded. -/
lemma fetch_cases (s : Session) (i : Nat) (name : String) :
    (∃ m, Keyed.get? (s.caches i) name = some m ∧ s.fetch i name = (.ok m, s)) ∨
    (∃ m, Keyed.get? (s.caches i) name = none ∧ s.directory.load name = .ok m ∧
      s.fetch i name = (.ok m, ((s.load name).2.keep i name m).2)) ∨
    ∃ e, Keyed.get? (s.caches i) name = none ∧ s.directory.load name = .error e ∧
      s.fetch i name = (.error e, (s.load name).2) := by
  cases h : Keyed.get? (s.caches i) name with
  | some m => exact .inl ⟨m, rfl, fetch_kept h⟩
  | none =>
    cases hload : s.directory.load name with
    | ok m => exact .inr (.inl ⟨m, rfl, rfl, fetch_loaded h hload⟩)
    | error e => exact .inr (.inr ⟨e, rfl, rfl, fetch_failed h hload⟩)

lemma fetch_options : (s.fetch i name).2.options = s.options := by
  obtain ⟨m, -, h⟩ | ⟨m, -, -, h⟩ | ⟨e, -, -, h⟩ := fetch_cases s i name <;> rw [h] <;> rfl

lemma asked_fetch (s : Session) (i : Nat) (name : String) : (s.fetch i name).2.asked =
    s.asked + if (Keyed.get? (s.caches i) name).isNone then 1 else 0 := by
  obtain ⟨m, hget, h⟩ | ⟨m, hget, -, h⟩ | ⟨e, hget, -, h⟩ := fetch_cases s i name <;>
    rw [h, hget] <;> rfl

lemma run_needs {a : Action} (h : a.needs? = some (i, name)) :
    s.run a = (outcome (s.fetch i name).1 (a.given s.options ·), (s.fetch i name).2) := by
  cases a with
  | fetch j n => cases h; simp only [run, Action.given]
  | extract j n source address => cases h; simp only [run, Action.given, fetch_options]
  | _ => cases h

lemma get?_fetch (s : Session) (i j : Nat) (n name : String) :
    Keyed.get? ((s.fetch j n).2.caches i) name = (Keyed.get? (s.caches i) name).or
      (if (j, n) = (i, name) then (s.directory.load n).toOption else none) := by
  obtain ⟨m, hget, h⟩ | ⟨m, -, hload, h⟩ | ⟨e, -, hload, h⟩ := fetch_cases s j n
  · -- What is there stands before what could be loaded.
    rw [h]
    split
    · next hat =>
      cases hat
      rw [hget, Option.some_or]
    · rw [Option.or_none]
  · rw [h, get?_keep, hload]
    rfl
  · rw [h, hload]
    change _ = Option.or _ (if _ then none else none)
    rw [ite_self, Option.or_none]
    rfl

/-- What one action does to a cache: it is cleared, or what it has for a name stands before what the
action brings. -/
lemma get?_run (s : Session) (a : Action) (i : Nat) (name : String) :
    Keyed.get? ((s.run a).2.caches i) name =
      if a.clears i then none
      else (Keyed.get? (s.caches i) name).or (a.brings? s.directory i name) := by
  cases a with
  | clear j =>
    simp only [run, caches_withCache, Action.clears, Action.brings?, Option.or_none]
    by_cases hi : i = j
    · rw [if_pos hi, if_pos (beq_of_eq hi.symm), Keyed.get?_nil]
    · rw [if_neg hi, if_neg (hi <| eq_of_beq · |>.symm)]
  | insert j n m => exact get?_keep ..
  | fetch j n => rw [run_needs rfl]; exact get?_fetch ..
  | extract j n source address => rw [run_needs rfl]; exact get?_fetch ..
  | write path bytes => simp [run, Action.clears, Action.brings?]
  | makeFolder path => simp [run, Action.clears, Action.brings?]
  | remove path => simp [run, Action.clears, Action.brings?]
  | load n => exact (Option.or_none ..).symm
  | find j n => exact (Option.or_none ..).symm

/-- The directory is asked once by an action that loads a mapping, and not at all by another. -/
lemma asked_run {log : List Event}
    (h : ∀ i name, Keyed.get? (s.caches i) name = first? log i name) (a : Action) :
    (s.run a).2.asked = s.asked + if a.asks log then 1 else 0 := by
  cases a with
  | fetch j n => rw [run_needs rfl, asked_fetch, h]; rfl
  | extract j n source address => rw [run_needs rfl, asked_fetch, h]; rfl
  | write path bytes => exact asked_change ..
  | makeFolder path => exact asked_change ..
  | remove path => exact asked_change ..
  | _ => rfl

/-! ### Two sessions -/

namespace SameAt

variable {t : Session}

lemma fetch (h : SameAt i s t) (n : String) :
    (s.fetch i n).1 = (t.fetch i n).1 ∧ SameAt i (s.fetch i n).2 (t.fetch i n).2 := by
  obtain ⟨m, hget, hs⟩ | ⟨m, hget, hload, hs⟩ | ⟨e, hget, hload, hs⟩ := fetch_cases s i n
  · rw [hs, fetch_kept (h.cache ▸ hget)]
    exact ⟨rfl, h⟩
  · rw [hs, fetch_loaded (h.cache ▸ hget) (h.directory ▸ hload)]
    have hnext : SameAt i (s.load n).2 (t.load n).2 := ⟨h.directory, h.cache⟩
    exact ⟨rfl, (hnext.keep n m).2⟩
  · rw [hs, fetch_failed (h.cache ▸ hget) (h.directory ▸ hload)]
    exact ⟨rfl, h.directory, h.cache⟩

/-- An action that is on no other cache comes to the same in both. -/
lemma run (h : SameAt i s t) (hoptions : s.options = t.options) {a : Action} (ha : a.isWithin i) :
    (s.run a).1 = (t.run a).1 ∧ SameAt i (s.run a).2 (t.run a).2 := by
  cases a with
  | write path bytes => simp only [Session.run]; exact h.directory ▸ h.change _
  | makeFolder path => simp only [Session.run]; exact h.directory ▸ h.change _
  | remove path => simp only [Session.run]; exact h.directory ▸ h.change _
  | load n =>
    refine ⟨?_, h.directory, h.cache⟩
    simp only [Session.run, Session.load, h.directory]
  | find j n =>
    cases eq_of_beq ha
    exact ⟨congrArg (Outcome.found <| Keyed.get? · n) h.cache, h⟩
  | fetch j n =>
    cases eq_of_beq ha
    rw [run_needs rfl, run_needs rfl, (h.fetch n).1]
    exact ⟨rfl, (h.fetch n).2⟩
  | extract j n source address =>
    cases eq_of_beq ha
    rw [run_needs rfl, run_needs rfl, (h.fetch n).1, hoptions]
    exact ⟨rfl, (h.fetch n).2⟩
  | insert j n m =>
    cases eq_of_beq ha
    exact ⟨congrArg (Outcome.found <| some ·) (h.keep n m).1, (h.keep n m).2⟩
  | clear j =>
    cases eq_of_beq ha
    exact ⟨congrArg (Outcome.dropped <| List.length ·) h.cache, h.directory,
      (if_pos rfl).trans (if_pos rfl).symm⟩

lemma fetch_other (h : SameAt i s t) {j : Nat} (hj : ¬j = i) (n : String) :
    SameAt i (s.fetch j n).2 t := by
  have hload : SameAt i (s.load n).2 t := ⟨h.directory, h.cache⟩
  obtain ⟨m, -, hs⟩ | ⟨m, -, -, hs⟩ | ⟨e, -, -, hs⟩ := fetch_cases s j n <;> rw [hs]
  · exact h
  · exact hload.withCache hj _
  · exact hload

/-- An action on another cache does not show. -/
lemma run_other (h : SameAt i s t) {a : Action} (ha : ¬a.isWithin i) :
    SameAt i (s.run a).2 t := by
  cases a with
  | write | makeFolder | remove | load => exact absurd rfl ha
  | find j n => exact h
  | fetch j n =>
    rw [run_needs rfl]
    exact h.fetch_other (ha <| beq_of_eq ·) n
  | extract j n source address =>
    rw [run_needs rfl]
    exact h.fetch_other (ha <| beq_of_eq ·) n
  | insert j n m => exact h.withCache (ha <| beq_of_eq ·) _
  | clear j => exact h.withCache (ha <| beq_of_eq ·) _

/-- All turns that are on other caches can be left out. -/
lemma history (h : SameAt i s t) (turns : List Turn) :
    t.history (turns.filter (·.isWithin i)) = (s.history turns).filter (·.isWithin i) ∧
      SameAt i (s.after turns) (t.after (turns.filter (·.isWithin i))) := by
  -- A turn within the cache is taken in both sessions, another one in the first alone.
  induction turns generalizing s t with
  | nil => exact ⟨rfl, h⟩
  | cons u turns ih =>
    rw [Session.history]
    by_cases hu : u.isWithin i
    · obtain ⟨houtcome, hnext⟩ := (h.withOptions u.options).run rfl hu
      obtain ⟨hlog, hafter⟩ := ih hnext
      have hevent : t.event u = s.event u := by
        unfold event take
        rw [houtcome, h.directory]
      have hwithin : (s.event u).isWithin i := hu
      rw [List.filter_cons_of_pos hu, List.filter_cons_of_pos hwithin, Session.history, hevent]
      exact ⟨congrArg (s.event u :: ·) hlog, hafter⟩
    · have hwithin : ¬(s.event u).isWithin i := hu
      have hskip : SameAt i (s.withOptions u.options) t := ⟨h.directory, h.cache⟩
      rw [List.filter_cons_of_neg hu, List.filter_cons_of_neg hwithin]
      exact ih (hskip.run_other hu)

end SameAt

/-! ### All turns -/

/-- A cache that was empty holds what the log says. -/
lemma get?_after (h : s.caches i = []) (turns : List Turn) (name : String) :
    Keyed.get? ((s.after turns).caches i) name = first? (s.history turns) i name := by
  -- From the last turn back, since what a turn brings comes behind what is there.
  induction turns using List.reverseRecOn with
  | nil => exact congrArg (Keyed.get? · name) h
  | append_singleton turns t ih =>
    rw [after_concat, history_concat, first?_concat, ← ih]
    exact get?_run ..

lemma first?_needs {t : Turn} (ht : t.action.needs? = some (i, name)) (log : List Event) :
    first? (log ++ [s.event t]) i name =
      (first? log i name).or (s.directory.load name).toOption := by
  rw [first?_concat]
  obtain ⟨o, a⟩ := t
  cases a with
  | fetch j n => cases ht; simp [event, Action.clears, Action.brings?]
  | extract j n source address => cases ht; simp [event, Action.clears, Action.brings?]
  | _ => cases ht

/-- What a session does for a name of a cache behind a log. -/
structure Serves (s : Session) (log : List Event) (i : Nat) (name : String) : Prop where
  /-- The first mapping is found, -/
  found : ∀ o, (s.take ⟨o, .find i name⟩).1 = .found (first? log i name)
  /-- is left in place by an insertion, -/
  inserted : ∀ o m, (s.take ⟨o, .insert i name m⟩).1 = .found (some ((first? log i name).getD m))
  /-- and is given to an action that needs it. -/
  hit : ∀ m t, first? log i name = some m → t.action.needs? = some (i, name) →
    (s.take t).1 = t.action.given t.options m ∧ (s.take t).2.caches = s.caches
  /-- Where there is none yet, the one in the directory is given and is the first from then on. -/
  loaded : ∀ m t, first? log i name = none → s.directory.load name = .ok m →
    t.action.needs? = some (i, name) →
    (s.take t).1 = t.action.given t.options m ∧ first? (log ++ [s.event t]) i name = some m
  /-- Where none can be loaded either, the caches are left as they are, and there is still none. -/
  failed : ∀ e t, first? log i name = none → s.directory.load name = .error e →
    t.action.needs? = some (i, name) →
    (s.take t).1 = .failed e ∧ (s.take t).2.caches = s.caches ∧
      first? (log ++ [s.event t]) i name = none

lemma serves {log : List Event} (h : Keyed.get? (s.caches i) name = first? log i name) :
    s.Serves log i name where
  found _ := congrArg Outcome.found h
  inserted o m := by
    have hkept : (s.keep i name m).1 = (first? log i name).getD m := by rw [fst_keep, h]
    exact congrArg (Outcome.found <| some ·) hkept
  hit m t hfirst ht := by
    rw [take, run_needs ht, fetch_kept (s := s.withOptions t.options) (h.trans hfirst)]
    exact ⟨rfl, rfl⟩
  loaded m t hfirst hload ht := by
    rw [take, run_needs ht, fetch_loaded (s := s.withOptions t.options) (h.trans hfirst) hload,
      first?_needs ht, hfirst, hload]
    exact ⟨rfl, rfl⟩
  failed e t hfirst hload ht := by
    rw [take, run_needs ht, fetch_failed (s := s.withOptions t.options) (h.trans hfirst) hload,
      first?_needs ht, hfirst, hload]
    exact ⟨rfl, rfl, rfl⟩

/-- **A cache is its log**: behind any turns, a look-up in a cache yields the first mapping that a
load or an insertion brought for the name since the cache was last cleared; the directory is asked
once by each look-up that finds none and never by one that finds it; and what is done with other
caches does not show. -/
theorem cache_history (options : Options) (d : Directory) (turns : List Turn) :
    let start : Session := { Session.new options with directory := d }
    let s := start.after turns
    let log := start.history turns
    (∀ i name, s.Serves log i name) ∧
      (∀ t, (s.take t).2.asked = s.asked + if t.action.asks log then 1 else 0) ∧
      ∀ i, start.history (turns.filter (·.isWithin i)) = log.filter (·.isWithin i) ∧
        (start.after (turns.filter (·.isWithin i))).caches i = s.caches i := by
  intro start s log
  have hlog : ∀ i name, Keyed.get? (s.caches i) name = first? log i name := fun i name =>
    get?_after rfl turns name
  have hstart : ∀ i, SameAt i start start := fun i => ⟨rfl, rfl⟩
  have hasked : ∀ t, (s.take t).2.asked = s.asked + if t.action.asks log then 1 else 0 := fun t =>
    asked_run (s := s.withOptions t.options) hlog t.action
  refine ⟨fun i name => serves (hlog i name), hasked, fun i => ?_⟩
  obtain ⟨hhistory, hsame⟩ := (hstart i).history turns
  exact ⟨hhistory, hsame.cache.symm⟩

end Session

end Estate
