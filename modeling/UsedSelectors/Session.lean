import UsedSelectors.Extraction

/-!
# Sessions

A session keeps extractors under names. An extractor is made for a mode and has a reader, which may
come out of each reading in another state; a mode that there is none of makes no extractor and
leaves the one that was there.
-/

namespace UsedSelectors

/-- Readers with a state that each reading may change. -/
structure Engine (σ : Type) where
  fresh : Mode → σ
  read : Mode → σ → Text → Except Component.Failure (List Node) × σ

structure Extractor (σ : Type) where
  mode : Mode
  state : σ

namespace Extractor

variable {σ : Type} (engine : Engine σ)

def create (mode : Mode) : Extractor σ := ⟨mode, engine.fresh mode⟩

def source (extractor : Extractor σ) : TreeSource :=
  ⟨extractor.mode, extractor.mode.order,
    fun contents => (engine.read extractor.mode extractor.state contents).1⟩

def after (extractor : Extractor σ) (contents : Text) : Extractor σ :=
  { extractor with state := (engine.read extractor.mode extractor.state contents).2 }

end Extractor

abbrev Session (σ : Type) := List (String × Extractor σ)

namespace Session

inductive Request where
  | create (name modeName : String)
  | mode (name : String)
  | kind (name : String) (kind : SelectorKind) (contents : Text)
  | all (name : String) (contents : Text)
  deriving DecidableEq

inductive Reply where
  | mode (mode : Mode)
  | selectors (selectors : List Text)
  | extraction (extraction : Extraction)
  | unknownMode (error : UnknownMode)
  | failure (failure : Component.Failure)
  | noExtractor (name : String)
  deriving DecidableEq

def Reply.ofResult (reply : α → Reply) : Except Component.Failure α → Reply
  | .ok answer => reply answer
  | .error error => failure error

variable {σ : Type}

def put (name : String) (extractor : Extractor σ) (session : Session σ) : Session σ :=
  (name, extractor) :: session.filter (fun entry => entry.1 != name)

def ask (engine : Engine σ) (session : Session σ) (name : String) (contents : Text)
    (question : TreeSource → Reply) : Session σ × Reply :=
  match session.lookup name with
  | none => (session, .noExtractor name)
  | some extractor =>
    (session.put name (extractor.after engine contents), question (extractor.source engine))

def step (engine : Engine σ) (session : Session σ) : Request → Session σ × Reply
  | .create name modeName =>
    match Mode.ofName modeName with
    | .error error => (session, .unknownMode error)
    | .ok mode => (session.put name (.create engine mode), .mode mode)
  | .mode name =>
    match session.lookup name with
    | none => (session, .noExtractor name)
    | some extractor => (session, .mode extractor.mode)
  | .kind name kind contents =>
    session.ask engine name contents
      (fun source => .ofResult .selectors (source.extractKind kind contents))
  | .all name contents =>
    session.ask engine name contents
      (fun source => .ofResult .extraction (source.extract contents))

def replies (engine : Engine σ) (session : Session σ) : List Request → List Reply
  | [] => []
  | request :: rest =>
    let (next, reply) := session.step engine request
    reply :: replies engine next rest

end Session

end UsedSelectors
