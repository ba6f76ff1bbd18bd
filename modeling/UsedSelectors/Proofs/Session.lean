import Mathlib.Data.List.Basic
import UsedSelectors.Builtin
import UsedSelectors.Proofs.Extraction
import UsedSelectors.Proofs.Lists

/-!
# Sessions keep nothing but modes

What a session replies to a request depends on the mode of the extractor it is about and on nothing
else, as long as what a reader finds does not depend on what it has read before: extractions leave
no trace then, a failed creation changes nothing, and requests about other extractors can come in
between in any order.
-/

namespace UsedSelectors

variable {σ : Type} {engine : Engine σ}

/-- What an engine finds in contents does not depend on what it has read before. -/
def Engine.IsMemoryless (engine : Engine σ) : Prop :=
  ∀ mode (state other : σ) contents,
    (engine.read mode state contents).1 = (engine.read mode other contents).1

theorem Extractor.source_eq (memoryless : engine.IsMemoryless) (extractor : Extractor σ) :
    extractor.source engine = (create engine extractor.mode).source engine := by
  unfold source create
  rw [TreeSource.mk.injEq]
  exact ⟨rfl, rfl, funext fun contents => memoryless _ _ _ contents⟩

namespace Session

namespace Request

def extractor : Request → String
  | create name _ => name
  | mode name => name
  | kind name _ _ => name
  | all name _ => name

def IsQuestion : Request → Prop
  | create _ _ => False
  | mode _ | kind _ _ _ | all _ _ => True

def IsExtraction : Request → Prop
  | create _ _ | mode _ => False
  | kind _ _ _ | all _ _ => True

/-- The mode for which a request makes an extractor of a name, if it does. -/
def made? (name : String) : Request → Option Mode
  | create used modeName => if used = name then (Mode.ofName modeName).toOption else none
  | _ => none

end Request

def modeOf? (session : Session σ) (name : String) : Option Mode :=
  (session.lookup name).map Extractor.mode

/-- The mode of the latest creation for a name that did not fail. -/
def latestMode? (history : List Request) (name : String) : Option Mode :=
  (history.filterMap (Request.made? name)).getLast?

def freshReply (engine : Engine σ) (mode : Mode) (request : Request) : Reply :=
  (step engine (put request.extractor (.create engine mode) []) request).2

/-- The reply to a request that comes after a history. -/
inductive Answers (engine : Engine σ) (history : List Request) : Request → Reply → Prop where
  | made {name modeName : String} {mode : Mode} (known : mode.name = modeName) :
      Answers engine history (.create name modeName) (.mode mode)
  | refused {name modeName : String} (unknown : ∀ mode : Mode, mode.name ≠ modeName) :
      Answers engine history (.create name modeName) (.unknownMode ⟨modeName⟩)
  | named {name : String} {mode : Mode} (latest : latestMode? history name = some mode) :
      Answers engine history (.mode name) (.mode mode)
  | extracted {request : Request} {mode : Mode} (extracts : request.IsExtraction)
      (latest : latestMode? history request.extractor = some mode) :
      Answers engine history request (freshReply engine mode request)
  | unnamed {request : Request} (asks : request.IsQuestion)
      (never : latestMode? history request.extractor = none) :
      Answers engine history request (.noExtractor request.extractor)

def after (engine : Engine σ) (session : Session σ) : List Request → Session σ
  | [] => session
  | request :: rest => (session.step engine request).1.after engine rest

def repliesOf (engine : Engine σ) (session : Session σ) (name : String)
    (requests : List Request) : List Reply :=
  ((requests.zip (session.replies engine requests)).filter
    fun entry => entry.1.extractor == name).map Prod.snd

variable {session other : Session σ} {request : Request} {name modeName : String}

/-! ## One request -/

theorem lookup_filter_ne {other : String} (differs : other ≠ name) (session : Session σ) :
    List.lookup other (session.filter fun entry => entry.1 != name) = session.lookup other := by
  induction session with
  | nil => rfl
  | cons entry rest ih =>
      obtain ⟨present, extractor⟩ := entry
      by_cases same : present = name
      · subst same
        rw [List.filter_cons_of_neg (by simp), ih, lookup_cons, if_neg differs]
      · rw [List.filter_cons_of_pos (by simp [same]), lookup_cons, lookup_cons, ih]

theorem lookup_put (name : String) (extractor : Extractor σ) (session : Session σ)
    (other : String) : (session.put name extractor).lookup other =
      if other = name then some extractor else session.lookup other := by
  rw [put, lookup_cons]
  by_cases same : other = name
  · rw [if_pos same, if_pos same]
  · rw [if_neg same, if_neg same, lookup_filter_ne same]

theorem modeOf?_put (name : String) (extractor : Extractor σ) (session : Session σ)
    (other : String) : (session.put name extractor).modeOf? other =
      if other = name then some extractor.mode else session.modeOf? other := by
  rw [modeOf?, lookup_put]
  split <;> rfl

/-- A question about contents changes no mode, though a reader may come out of it in another
state. -/
theorem modeOf?_ask (question : TreeSource → Reply) (contents : Text) (other : String) :
    (session.ask engine name contents question).1.modeOf? other = session.modeOf? other := by
  rw [ask]
  cases found : session.lookup name with
  | none => rfl
  | some extractor =>
      dsimp only
      rw [modeOf?_put]
      by_cases same : other = name
      · rw [if_pos same, same, modeOf?, found]
        rfl
      · rw [if_neg same]

theorem modeOf?_step (session : Session σ) (request : Request) (name : String) :
    (session.step engine request).1.modeOf? name =
      (request.made? name).or (session.modeOf? name) := by
  cases request with
  | mode used =>
      rw [step]
      cases session.lookup used <;> rfl
  | kind used _ contents => exact modeOf?_ask _ contents name
  | all used contents => exact modeOf?_ask _ contents name
  | create used modeName =>
      rw [step, Request.made?]
      cases Mode.ofName modeName with
      | error e => simp [Except.toOption]
      | ok mode =>
          dsimp only
          rw [modeOf?_put]
          by_cases same : name = used
          · rw [if_pos same, if_pos same.symm]
            rfl
          · rw [if_neg same, if_neg (Ne.symm same), Option.none_or]

theorem made?_of_other (differs : request.extractor ≠ name) : request.made? name = none := by
  cases request with
  | create used modeName => exact if_neg differs
  | mode _ => rfl
  | kind _ _ _ => rfl
  | all _ _ => rfl

theorem lookup_cases (same : session.modeOf? name = other.modeOf? name) :
    (session.lookup name = none ∧ other.lookup name = none) ∨
      ∃ one another, session.lookup name = some one ∧ other.lookup name = some another ∧
        one.mode = another.mode := by
  unfold modeOf? at same
  cases here : session.lookup name with
  | none =>
      rw [here] at same
      exact .inl ⟨rfl, Option.map_eq_none_iff.mp same.symm⟩
  | some one =>
      rw [here] at same
      obtain ⟨another, there, sameMode⟩ := Option.map_eq_some_iff.mp same.symm
      exact .inr ⟨one, another, rfl, there, sameMode.symm⟩

/-- What is answered to a question about contents depends only on the mode. -/
theorem ask_congr (memoryless : engine.IsMemoryless) (question : TreeSource → Reply)
    (contents : Text) (same : session.modeOf? name = other.modeOf? name) :
    (session.ask engine name contents question).2 =
      (other.ask engine name contents question).2 := by
  rw [ask, ask]
  rcases lookup_cases same with ⟨here, there⟩ | ⟨one, another, here, there, sameMode⟩
  · rw [here, there]
  · rw [here, there]
    dsimp only
    rw [Extractor.source_eq memoryless, Extractor.source_eq memoryless another, sameMode]

/-- The reply to a request depends only on the mode of the extractor it is about. -/
theorem reply_congr (memoryless : engine.IsMemoryless)
    (same : session.modeOf? request.extractor = other.modeOf? request.extractor) :
    (session.step engine request).2 = (other.step engine request).2 := by
  cases request with
  | create used modeName =>
      rw [step, step]
      cases Mode.ofName modeName <;> rfl
  | mode used =>
      have same : session.modeOf? used = other.modeOf? used := same
      rw [step, step]
      rcases lookup_cases same with ⟨here, there⟩ | ⟨one, another, here, there, sameMode⟩
      · rw [here, there]
      · rw [here, there]
        dsimp only
        rw [sameMode]
  | kind used _ contents => exact ask_congr memoryless _ contents same
  | all used contents => exact ask_congr memoryless _ contents same

theorem reply_of_unnamed (asks : request.IsQuestion)
    (never : session.modeOf? request.extractor = none) :
    (session.step engine request).2 = .noExtractor request.extractor := by
  have absent := Option.map_eq_none_iff.mp never
  cases request with
  | create used modeName => exact asks.elim
  | mode used =>
      have absent : session.lookup used = none := absent
      rw [step, absent]
      rfl
  | kind used _ _ =>
      have absent : session.lookup used = none := absent
      rw [step, ask, absent]
      rfl
  | all used _ =>
      have absent : session.lookup used = none := absent
      rw [step, ask, absent]
      rfl

theorem freshReply_mode (mode : Mode) (name : String) :
    freshReply engine mode (.mode name) = .mode mode := by
  have kept : (put name (.create engine mode) []).lookup name =
      some (Extractor.create engine mode) := by
    rw [lookup_put, if_pos rfl]
  rw [freshReply, step, Request.extractor, kept]
  rfl

/-! ## Many requests -/

theorem latestMode?_cons (request : Request) (history : List Request) (name : String) :
    latestMode? (request :: history) name =
      (latestMode? history name).or (request.made? name) := by
  rw [latestMode?]
  cases made : request.made? name with
  | none => rw [List.filterMap_cons_none made, Option.or_none, latestMode?]
  | some mode => rw [List.filterMap_cons_some made, List.getLast?_cons, Option.or_some, latestMode?]

theorem modeOf?_after (session : Session σ) (history : List Request) (name : String) :
    (session.after engine history).modeOf? name =
      (latestMode? history name).or (session.modeOf? name) := by
  induction history generalizing session with
  | nil => rfl
  | cons request history ih =>
      rw [after, ih, modeOf?_step, latestMode?_cons, Option.or_assoc]

theorem length_replies (session : Session σ) (requests : List Request) :
    (session.replies engine requests).length = requests.length := by
  induction requests generalizing session with
  | nil => rfl
  | cons request rest ih => rw [replies, List.length_cons, List.length_cons, ih]

theorem getElem?_replies {requests : List Request} {place : Nat}
    (asked : requests[place]? = some request) :
    (session.replies engine requests)[place]? =
      some ((session.after engine (requests.take place)).step engine request).2 := by
  induction requests generalizing session place with
  | nil => cases asked
  | cons first rest ih =>
      cases place with
      | zero =>
          cases asked
          rfl
      | succ place => exact ih asked

/-- The replies about an extractor are those of a session that is asked about nothing else. -/
theorem repliesOf_eq_replies_filter (memoryless : engine.IsMemoryless)
    (same : session.modeOf? name = other.modeOf? name) (requests : List Request) :
    session.repliesOf engine name requests =
      other.replies engine (requests.filter fun request => request.extractor == name) := by
  induction requests generalizing session other with
  | nil => rfl
  | cons request rest ih =>
      have unfolded : session.repliesOf engine name (request :: rest) =
          if request.extractor == name then
            (session.step engine request).2 ::
              (session.step engine request).1.repliesOf engine name rest
          else (session.step engine request).1.repliesOf engine name rest := by
        rw [repliesOf, replies, List.zip_cons_cons, List.filter_cons]
        split <;> rfl
      rw [unfolded]
      by_cases about : request.extractor = name
      · have isAbout : (request.extractor == name) = true := beq_iff_eq.mpr about
        have next : (session.step engine request).1.modeOf? name =
            (other.step engine request).1.modeOf? name := by
          rw [modeOf?_step, modeOf?_step, same]
        have reply : (session.step engine request).2 = (other.step engine request).2 := by
          apply reply_congr memoryless
          rw [about, same]
        rw [if_pos isAbout, List.filter_cons, if_pos isAbout, replies, reply, ih next]
      · have notAbout : ¬ (request.extractor == name) = true := mt beq_iff_eq.mp about
        have kept : (session.step engine request).1.modeOf? name = other.modeOf? name := by
          rw [modeOf?_step, made?_of_other about, Option.none_or, same]
        rw [if_neg notAbout, List.filter_cons, if_neg notAbout, ih kept]

/-! ## Whole sessions -/

/-- A step of a session is answered by what came before it. -/
theorem answers_step (memoryless : engine.IsMemoryless) (history : List Request)
    (request : Request) :
    Answers engine history request ((after engine [] history).step engine request).2 := by
  have kept : (after engine [] history).modeOf? request.extractor =
      latestMode? history request.extractor := by
    rw [modeOf?_after, modeOf?, List.lookup_nil, Option.map_none, Option.or_none]
  have fresh {mode : Mode} (latest : latestMode? history request.extractor = some mode) :
      ((after engine [] history).step engine request).2 = freshReply engine mode request := by
    apply reply_congr memoryless
    rw [kept, latest, modeOf?_put, if_pos rfl]
    rfl
  have unnamed (asks : request.IsQuestion)
      (never : latestMode? history request.extractor = none) :
      Answers engine history request ((after engine [] history).step engine request).2 := by
    rw [reply_of_unnamed asks (kept.trans never)]
    exact .unnamed asks never
  have extracted (extracts : request.IsExtraction) (asks : request.IsQuestion) :
      Answers engine history request ((after engine [] history).step engine request).2 := by
    cases latest : latestMode? history request.extractor with
    | none => exact unnamed asks latest
    | some mode =>
        rw [fresh latest]
        exact .extracted extracts latest
  cases request with
  | create name modeName =>
      by_cases known : ∃ mode : Mode, mode.name = modeName
      · obtain ⟨mode, rfl⟩ := known
        rw [step, Mode.ofName_name]
        exact .made rfl
      · have unknown := not_exists.mp known
        rw [step, Mode.ofName_eq_error unknown]
        exact .refused unknown
  | mode name =>
      cases latest : latestMode? history name with
      | none => exact unnamed trivial latest
      | some mode =>
          rw [fresh latest, freshReply_mode]
          exact .named latest
  | kind name kind contents => exact extracted trivial trivial
  | all name contents => exact extracted trivial trivial

/--
Every reply of a session is that of a new extractor of the mode that the latest creation for its
name gave, as far as there was one; a creation for no mode that there is leaves the session as it
was; and the replies about an extractor are the same however requests about others come in between.
-/
theorem replies_fresh (memoryless : engine.IsMemoryless) (requests : List Request) :
    (replies engine [] requests).length = requests.length ∧
    (∀ place request, requests[place]? = some request →
      ∃ reply, (replies engine [] requests)[place]? = some reply ∧
        Answers engine (requests.take place) request reply) ∧
    (∀ (session : Session σ) (name modeName : String), (∀ mode : Mode, mode.name ≠ modeName) →
      session.step engine (.create name modeName) = (session, .unknownMode ⟨modeName⟩)) ∧
    ∀ others : List Request,
      (∀ name, requests.filter (fun request => request.extractor == name) =
        others.filter (fun request => request.extractor == name)) →
      ∀ name, repliesOf engine [] name requests = repliesOf engine [] name others := by
  refine ⟨length_replies [] requests, ?_, ?_, ?_⟩
  · intro place request asked
    exact ⟨_, getElem?_replies asked, answers_step memoryless _ request⟩
  · intro session name modeName unknown
    rw [step, Mode.ofName_eq_error unknown]
  · intro others same name
    rw [repliesOf_eq_replies_filter memoryless rfl requests,
      repliesOf_eq_replies_filter memoryless rfl others, same name]

/-- An engine that counts what it has read. -/
def countingEngine : Engine Nat where
  fresh _ := 0
  read mode count contents := (Parsers.builtin.readers mode contents, count + 1)

/-- Requests about two extractors: one is made, asked for a module that breaks the grammar, and made
again for a mode that there is none of; the other is asked in between. -/
def mixedRequests : List Request :=
  [.create "a" "component", .create "b" "markup", .all "a" (.ofString "export function ("),
    .kind "b" .ident (.ofString "<p id=x>"), .create "a" "vue", .mode "a"]

def sortedRequests : List Request :=
  [.create "a" "component", .all "a" (.ofString "export function ("), .create "a" "vue",
    .mode "a", .create "b" "markup", .kind "b" .ident (.ofString "<p id=x>")]

/-- The failed creation leaves the extractor it would have replaced, and in both orders the requests
have the same replies. -/
theorem replies_fresh_mixedRequests :
    countingEngine.IsMemoryless ∧
    (∃ reply, (replies countingEngine [] mixedRequests)[5]? = some reply ∧
      Answers countingEngine (mixedRequests.take 5) (.mode "a") reply) ∧
    (∀ mode : Mode, mode.name ≠ "vue") ∧
    Session.step countingEngine [("a", ⟨.component, 1⟩)] (.create "a" "vue") =
      ([("a", ⟨.component, 1⟩)], .unknownMode ⟨"vue"⟩) ∧
    (∀ name, mixedRequests.filter (fun request => request.extractor == name) =
      sortedRequests.filter (fun request => request.extractor == name)) ∧
    ∀ name, repliesOf countingEngine [] name mixedRequests =
      repliesOf countingEngine [] name sortedRequests := by
  have memoryless : countingEngine.IsMemoryless := fun _ _ _ _ => rfl
  obtain ⟨_, answered, refused, sorted⟩ := replies_fresh memoryless mixedRequests
  have unknown : ∀ mode : Mode, mode.name ≠ "vue" := by
    rintro (_ | _) <;> decide
  have same : ∀ name, mixedRequests.filter (fun request => request.extractor == name) =
      sortedRequests.filter (fun request => request.extractor == name) := by
    intro name
    by_cases isA : "a" = name
    · subst isA
      decide
    · by_cases isB : "b" = name
      · subst isB
        decide
      · simp [mixedRequests, sortedRequests, Request.extractor, isA, isB]
  exact ⟨memoryless, answered 5 (.mode "a") rfl, unknown, refused _ _ _ unknown, same,
    sorted sortedRequests same⟩

end Session

end UsedSelectors
