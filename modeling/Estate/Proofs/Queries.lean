import Estate.Proofs.Findings

/-!
Questions to a page, one after the other.

What has been asked of a page before does not show in the answers to come: each is the one that a
page gives that has just been read. The memory that is left behind any questions holds nothing but
what would be worked out anew.
-/

namespace Estate.Page

/-- What can be asked of a page. -/
inductive Query where
  | value (r : Rule)
  | values (r : Rule)
  | trace (r : Rule)
  | lookUp (name : String)
  | flight
  | linkedData

/-- What a page answers. -/
inductive Reply where
  | text (s : String)
  | texts (list : List String)
  | resolution (r : Resolution)
  | value (v : Option Json.Value)
  | flight (f : Flight)
  | linkedData (vs : List Json.Value)

namespace Query

def ask {m : Type → Type} [Monad m] (reader : Reader m) : Query → m Reply
  | value r => return .text (← r.value reader)
  | values r => return .texts (← r.values reader)
  | trace r => return .resolution (← r.trace reader)
  | lookUp name => return .value (← reader.lookUp? name)
  | flight => return .flight (← reader.flight)
  | linkedData => return .linkedData (← reader.linkedData)

/-- The answer of a page of which nothing is remembered. -/
def askFresh (source address : String) (depth : Nat) (q : Query) : Reply :=
  ((q.ask (Page.read source address depth).rememberingReader).run .empty).1

/-- The answer that is worked out of a page. -/
def reply (p : Page) : Query → Reply
  | value r => .text (((r.found p .one).first?).getD "")
  | values r => .texts (r.found p .many).values
  | trace r => .resolution (r.found p .one)
  | lookUp name => .value (p.lookUp? name)
  | flight => .flight p.flight
  | linkedData => .linkedData p.linkedData

open Memory

lemma answers_ask (p : Page) (q : Query) : Answers p (q.ask p.rememberingReader) (q.reply p) := by
  cases q with
  | value r =>
    exact answers_bind (answers_bind (r.answers_resolve p .one) (answers_pure _)) (answers_pure _)
  | values r => exact answers_bind (r.answers_values p) (answers_pure _)
  | trace r => exact answers_bind (r.answers_resolve p .one) (answers_pure _)
  | lookUp name => exact answers_bind (answers_lookUp? p name) (answers_pure _)
  | flight => exact answers_bind (answers_flightOf p) (answers_pure _)
  | linkedData => exact answers_bind (answers_linkedDataOf p) (answers_pure _)

end Query

open Memory

/-- **Remembering does not show**: any questions to one page, in any order and however often, are
answered like the same questions to pages that have just been read, and whatever is remembered
behind them is what would be worked out anew. -/
theorem replies_as_fresh (source address : String) (depth : Nat) (queries : List Query) :
    let p := Page.read source address depth
    let asked := (queries.mapM fun q : Query => q.ask p.rememberingReader).run .empty
    asked.1 = queries.map (·.askFresh source address depth) ∧ asked.2.Faithful p := by
  intro p asked
  have hfresh : ∀ q : Query, q.askFresh source address depth = q.reply p := fun q =>
    (q.answers_ask p .empty (faithful_empty p)).1
  obtain ⟨hreplies, hfaithful⟩ :=
    answers_mapM (fun q : Query => q.answers_ask p) queries .empty (faithful_empty p)
  refine ⟨?_, hfaithful⟩
  rw [hreplies]
  exact List.map_congr_left fun q _ => (hfresh q).symm

end Estate.Page
