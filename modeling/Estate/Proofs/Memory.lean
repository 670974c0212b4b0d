import Mathlib.Tactic.Lemma
import Estate.Resolution

/-!
The reader of a page that remembers answers like the one that works everything out anew.

A memory is faithful to a page if it holds nothing but what would be worked out from the page;
every read keeps that.
-/

namespace Estate.Page.Memory

/-- Whatever is remembered is what would be worked out. -/
structure Faithful (p : Page) (m : Memory) : Prop where
  linkedData : ∀ vs, m.linkedData = some vs → vs = p.linkedData
  flight : ∀ f, m.flight = some f → f = p.flight
  scriptValues : ∀ vs, m.scriptValues = some vs → vs = p.scriptValues
  scans : ∀ name found, Keyed.get? m.scans name = some found → found = p.scanned? name

variable {p : Page} {m : Memory}

lemma faithful_empty (p : Page) : empty.Faithful p where
  linkedData _ h := by simp [empty] at h
  flight _ h := by simp [empty] at h
  scriptValues _ h := by simp [empty] at h
  scans _ _ h := by simp [empty, Keyed.get?] at h

/-- From a faithful memory the answer is `a`, and the memory left behind is faithful. -/
def Answers {α : Type} (p : Page) (x : StateM Memory α) (a : α) : Prop :=
  ∀ m : Memory, m.Faithful p → (x.run m).1 = a ∧ (x.run m).2.Faithful p

section

variable {α β : Type} {x : StateM Memory α} {a : α}

lemma answers_pure (a : α) : Answers p (pure a) a := fun _ hm => ⟨rfl, hm⟩

lemma answers_bind {f : α → StateM Memory β} {b : β} (hx : Answers p x a)
    (hf : Answers p (f a) b) : Answers p (x >>= f) b := by
  intro m hm
  obtain ⟨ha, hm'⟩ := hx m hm
  have h := hf _ hm'
  rw [← ha] at h
  exact h

/-- What is remembered is `work ()`, and keeping it leaves the memory faithful. -/
lemma answers_once {remembered? : Memory → Option α} {keep : α → Memory → Memory}
    {work : Unit → α} (hr : ∀ m, Faithful p m → ∀ b, remembered? m = some b → b = work ())
    (hk : ∀ m, Faithful p m → Faithful p (keep (work ()) m)) :
    Answers p (once remembered? keep work) (work ()) := by
  intro m hm
  cases h : remembered? m with
  | none => simpa [once, StateT.run, h] using hk m hm
  | some b => simpa [once, StateT.run, h, hr m hm b h] using hm

end

lemma answers_linkedDataOf (p : Page) : Answers p (linkedDataOf p) p.linkedData :=
  answers_once (fun _ hm => hm.linkedData) fun _ hm =>
    { hm with linkedData := fun vs h => by simpa using h.symm }

lemma answers_flightOf (p : Page) : Answers p (flightOf p) p.flight :=
  answers_once (fun _ hm => hm.flight) fun _ hm =>
    { hm with flight := fun f h => by simpa using h.symm }

lemma answers_scriptValuesOf (p : Page) : Answers p (scriptValuesOf p) p.scriptValues :=
  answers_once (fun _ hm => hm.scriptValues) fun _ hm =>
    { hm with scriptValues := fun vs h => by simpa using h.symm }

lemma answers_scan (p : Page) (name : String) : Answers p (scan p name) (p.scanned? name) := by
  refine answers_once (fun m hm => hm.scans name) fun m hm => { hm with scans := ?_ }
  intro other found h
  rw [Keyed.get?_insert] at h
  split at h
  · subst other
    simpa using h.symm
  · exact hm.scans other found h

lemma answers_lookUp? (p : Page) (name : String) :
    Answers p (p.rememberingReader.lookUp? name) (p.lookUp? name) := by
  refine answers_bind (answers_scriptValuesOf p) ?_
  unfold Page.lookUp?
  cases known? p.scriptValues name with
  | some v => exact answers_pure (some v)
  | none => exact answers_scan p name

end Estate.Page.Memory

namespace Estate

open Page.Memory

variable (p : Page) (c : Cardinality)

/-- The texts found where a probe looks in a page, worked out anew. -/
def Probe.found (probe : Probe) : Except LookupError (List String) :=
  Id.run (probe.look p.reader c)

lemma Probe.answers_look (probe : Probe) :
    Answers p (probe.look p.rememberingReader c) (probe.found p c) := by
  unfold Probe.found Probe.look
  cases probe.locator with
  | scriptJson name path => exact answers_bind (answers_lookUp? p name) (answers_pure _)
  | flightData path => exact answers_bind (answers_flightOf p) (answers_pure _)
  | jsonLd type path => exact answers_bind (answers_linkedDataOf p) (answers_pure _)
  | urlSegment part =>
    simp only [Page.rememberingReader, Page.reader]
    cases Url.ofText p.address with
    | ok u => exact answers_pure _
    | error fault => exact answers_pure _
  | _ => exact answers_pure _

/-- The texts found in a page, cleaned, less those that come to nothing. -/
def Probe.cleaned (probe : Probe) : Except LookupError (List String) :=
  (probe.found p c).map fun found =>
    (found.map (probe.cleanup.apply probe.modifiers)).filter (!·.isEmpty)

lemma Probe.answers_values (probe : Probe) :
    Answers p (probe.values p.rememberingReader c) (probe.cleaned p c) :=
  answers_bind (probe.answers_look p c) (answers_pure _)

end Estate
