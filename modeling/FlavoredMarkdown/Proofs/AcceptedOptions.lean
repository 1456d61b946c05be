import FlavoredMarkdown.Program.Run
import FlavoredMarkdown.Proofs.Failure
import FlavoredMarkdown.Proofs.OptionRecords

/-!
# What accepted options can still do

The flat record (`RenderOptions`) checks its flags and nothing else. The parts for reading and for the
overrides hold nothing but flags, so they are always there. The part for the markup
(`HtmlFormatterOptions`) also holds the two rewriters and the prefix of anchors, and these are looked at
late: a rewriter that is none is refused when the part is made, although the flat record took it, and a
prefix that is no text stops the rendering at the first heading (`visit_heading`), since no record looks
at it.

* So an accepted record renders all documents of known kinds exactly if its rewriters are rewriters and
  its prefix is a text.
* When the program makes the part for the markup, it has read its input already. It ends as for
  Markdown that cannot be rendered, and not as for an option that is refused.

Results:
* `renderDocument_result`, `renderText_result`: where the parts are made on the way to HTML.
* **`Settings.renderDocument_accepted`**: what becomes of a document with an accepted record.
* `renderInput_options`, `renderInput_badRewriter`: how the program ends when a part is refused.
-/

namespace FlavoredMarkdown

/-! ## The parts on the way to HTML -/

namespace Attempt

variable {α β ε : Type}

/-- The end of an attempt that finds some records in the log. -/
def runFrom (a : Attempt α) (log : List LogRecord) : Except Failure α × List LogRecord :=
  StateT.run (ExceptT.run a) log

theorem runFrom_bind (a : Attempt α) (f : α → Attempt β) (log : List LogRecord) :
    (a >>= f).runFrom log =
      match (a.runFrom log).1 with
      | .ok x => (f x).runFrom (a.runFrom log).2
      | .error e => (.error e, (a.runFrom log).2) := by
  unfold runFrom
  rw [ExceptT.run_bind, StateT.run_bind]
  generalize StateT.run (ExceptT.run a) log = r
  obtain ⟨outcome, log'⟩ := r
  cases outcome <;> rfl

theorem runFrom_of (wrap : ε → Failure) (result : Except ε α × List LogRecord)
    (log : List LogRecord) :
    (Attempt.of wrap result).runFrom log = (result.1.mapError wrap, log ++ result.2) := by
  obtain ⟨outcome, records⟩ := result
  cases outcome <;> rfl

theorem mapError_ok (wrap : ε → Failure) (a : α) : (Except.ok a).mapError wrap = .ok a := rfl

theorem mapError_error (wrap : ε → Failure) (e : ε) :
    (Except.error e : Except ε α).mapError wrap = .error (wrap e) := rfl

theorem runFrom_modify (g : List LogRecord → List LogRecord) (log : List LogRecord) :
    (modify g : Attempt PUnit).runFrom log = (.ok ⟨⟩, g log) := rfl

end Attempt

theorem Settings.projected?_reader (s : Settings) : s.projected? .reader = .ok (s.restricted .reader) :=
  rfl

theorem Settings.projected?_user (s : Settings) : s.projected? .user = .ok (s.restricted .user) := rfl

/-- The part for the markup is made before a document is rendered. -/
theorem renderDocument_runFrom (s : Settings) (doc : Node) (log : List LogRecord) :
    ((renderDocument s doc).runFrom log).1 =
      match s.projected? .html with
      | .error e => .error (.options e)
      | .ok html =>
        (Formatter.standard.format ⟨html, s.restricted .user⟩ doc).1.mapError .render := by
  unfold renderDocument
  rw [s.projected?_user]
  cases s.projected? .html with
  | error e => rfl
  | ok html =>
    simp only [Attempt.runFrom_bind, Attempt.runFrom_of]
    rfl

theorem renderDocument_result (s : Settings) (doc : Node) :
    (renderDocument s doc).result.1 =
      match s.projected? .html with
      | .error e => .error (.options e)
      | .ok html =>
        (Formatter.standard.format ⟨html, s.restricted .user⟩ doc).1.mapError .render :=
  renderDocument_runFrom s doc []

/-- It is made after the Markdown has been read. -/
theorem renderText_result (s : Settings) (text : String) :
    (renderText s text).result.1 =
      match (documentOf (Markdown.tokensOf (.ofSettings (s.restricted .reader)) text)).1 with
      | .error e => .error (.tokens e)
      | .ok doc => (renderDocument s doc).result.1 := by
  show ((renderText s text).runFrom []).1 = _
  unfold renderText readDocument documentRead
  cases hdoc : (documentOf (Markdown.tokensOf (.ofSettings (s.restricted .reader)) text)).1 with
  | error e =>
    simp only [s.projected?_reader, Attempt.runFrom_bind, Attempt.runFrom_of,
      Attempt.runFrom_modify, Attempt.mapError_ok, Attempt.mapError_error, hdoc]
  | ok doc =>
    simp only [s.projected?_reader, Attempt.runFrom_bind, Attempt.runFrom_of,
      Attempt.runFrom_modify, Attempt.mapError_ok, hdoc, renderDocument_runFrom,
      renderDocument_result]

/-- A part that is refused ends the program as Markdown does that cannot be rendered. -/
theorem renderInput_options {m : Type → Type} [Monad m] (host : Host m) (journal : Journal)
    (i : Invocation) {s : Settings} {text : List Char} {e : SettingsError}
    (h : (renderText s (String.ofList text)).result.1 = .error (.options e)) :
    renderInput host journal i s text = (do
      (renderText s (String.ofList text)).result.2.forM (journal.write host)
      journal.write host (.ofCommand "Rendering failed")
      report host e.message
      return .notRendered) := by
  unfold renderInput
  generalize (renderText s (String.ofList text)).result = r at h ⊢
  obtain ⟨outcome, log⟩ := r
  cases h
  rfl

/-! ## Documents of known kinds -/

/-- All overrides together have markup for every known kind. -/
theorem Formatter.misfit?_standard (style : Style) {n : Node} (hk : n.isForeign = false) :
    Formatter.standard.misfit? style n = none := by
  rw [Formatter.misfit?_eq_none]
  have hov : Formatter.standard.override? style n.kindName =
      if style.user.on .defaultHtml then none else Override.ofNode? n := by
    rw [← Override.lookup_standard]
    rfl
  rw [hov]
  by_cases hd : style.user.on .defaultHtml = true
  · rw [if_pos hd]
    exact hk
  · rw [if_neg hd]
    cases ho : Override.ofNode? n with
    | none => exact hk
    | some override => rfl

/-- Nodes of known kinds are at fault for the prefix of an anchor, or not at all. -/
theorem Formatter.firstFault?_standard (style : Style) (members : List Member)
    (hk : ∀ q ∈ members, q.node.isForeign = false) :
    Formatter.standard.firstFault? style members =
      if members.any (fun q => q.node.isHeading) && style.hasBadPrefix then
        some .anchorPrefixNotText
      else none := by
  induction members with
  | nil => rfl
  | cons q rest ih =>
    have hrest := ih fun p hp => hk p (List.mem_cons_of_mem _ hp)
    have hq : Formatter.standard.fault? style q.node =
        if q.node.isHeading && style.hasBadPrefix then some .anchorPrefixNotText else none := by
      rw [Formatter.fault?, Formatter.misfit?_standard style (hk q List.mem_cons_self),
        Option.none_or]
    unfold Formatter.firstFault? at hrest ⊢
    rw [List.findSome?_cons, hq, hrest, List.any_cons]
    cases q.node.isHeading <;> cases style.hasBadPrefix <;> simp

/-! ## Accepted records -/

/-- Whether a setting can serve as a rewriter: it is one, or nothing. -/
def Setting.isRewriterOrNone (setting : Setting) : Bool :=
  setting.isNone || setting.rewriter?.isSome

/-- The part for the markup asks this of a setting in two steps. -/
theorem Setting.refused_eq (setting : Setting) :
    (!setting.isNone && setting.rewriter?.isNone) = !setting.isRewriterOrNone := by
  unfold Setting.isRewriterOrNone
  cases setting.rewriter? <;> simp

namespace Settings

variable {pairs : List (String × Setting)} {s : Settings}

/-- What is given for a rewriter and is none, for the first such rewriter. -/
def badRewriter? (pairs : List (String × Setting)) : Option SettingsError :=
  [Field.linkUrlRewriter, .imageUrlRewriter].findSome? fun field =>
    (lastGiven? pairs field.name).bind fun setting =>
      if setting.isRewriterOrNone then none else some (.notCallable field.name setting)

/-- Whether what is given for the prefix of anchors is no text. -/
def givesBadPrefix (pairs : List (String × Setting)) : Bool :=
  (lastGiven? pairs Field.headerIds.name).any fun setting => !setting.isTextOrNone

/-- The options of a rendering by a record of all options. -/
def style (s : Settings) : Style := ⟨s.restricted .html, s.restricted .user⟩

/-- A record for the markup is refused for the first rewriter that is none. -/
theorem firstNotCallable?_html (s : Settings) :
    firstNotCallable? .html s =
      [Field.linkUrlRewriter, .imageUrlRewriter].findSome? fun field =>
        if (s.get field).isRewriterOrNone then none
        else some (.notCallable field.name (s.get field)) := by
  rw [firstNotCallable?, if_pos rfl, Setting.refused_eq, Setting.refused_eq]
  simp only [List.findSome?_cons, List.findSome?_nil, get]
  by_cases hl : s.linkUrlRewriter.isRewriterOrNone = true <;>
    by_cases hi : s.imageUrlRewriter.isRewriterOrNone = true <;> simp [hl, hi]

theorem firstNotCallable?_restricted (s : Settings) :
    firstNotCallable? .html (s.restricted .html) =
      [Field.linkUrlRewriter, .imageUrlRewriter].findSome? fun field =>
        if (s.get field).isRewriterOrNone then none
        else some (.notCallable field.name (s.get field)) :=
  firstNotCallable?_html (s.restricted .html)

/-- An accepted record keeps for a rewriter what the last key gives. -/
theorem projected?_html (h : ofPairs? .render pairs = .ok s) :
    s.projected? .html =
      match badRewriter? pairs with
      | some e => .error e
      | none => .ok (s.restricted .html) := by
  have hget : ∀ field ∈ [Field.linkUrlRewriter, .imageUrlRewriter],
      (if (s.get field).isRewriterOrNone then none
        else some (SettingsError.notCallable field.name (s.get field))) =
      (lastGiven? pairs field.name).bind fun setting =>
        if setting.isRewriterOrNone then none else some (.notCallable field.name setting) := by
    intro field hfield
    have hunset : field.unset.isRewriterOrNone = true := by
      simp only [List.mem_cons, List.not_mem_nil, or_false] at hfield
      rcases hfield with rfl | rfl <;> rfl
    rw [get_of_ofPairs? h]
    cases lastGiven? pairs field.name with
    | none => simp [hunset]
    | some setting => rfl
  have hbad : firstNotCallable? .html (s.restricted .html) = badRewriter? pairs := by
    rw [firstNotCallable?_restricted, badRewriter?]
    simp only [List.findSome?_cons, List.findSome?_nil, hget _ List.mem_cons_self,
      hget _ (List.mem_cons_of_mem _ List.mem_cons_self)]
  cases he : badRewriter? pairs <;> simp only [projected?, hbad, he]

/-- It keeps for the prefix of anchors what the last key gives. -/
theorem hasBadPrefix_style (h : ofPairs? .render pairs = .ok s) :
    s.style.hasBadPrefix = givesBadPrefix pairs := by
  have hids : s.style.html.headerIds = (lastGiven? pairs Field.headerIds.name).getD .none :=
    get_of_ofPairs? h .headerIds
  rw [Style.hasBadPrefix, hids, givesBadPrefix]
  cases lastGiven? pairs Field.headerIds.name <;> rfl

/-- What becomes of a document of known kinds. -/
theorem renderDocument_known (h : ofPairs? .render pairs = .ok s) {doc : Node}
    (hk : ∀ q ∈ doc.members none, q.node.isForeign = false) :
    match badRewriter? pairs with
    | some e => (renderDocument s doc).result.1 = .error (.options e)
    | none =>
      if (doc.reached (Formatter.standard.answer s.style) none).any (fun q => q.node.isHeading) &&
          givesBadPrefix pairs then
        (renderDocument s doc).result.1 = .error (.render .anchorPrefixNotText)
      else ∃ html, (renderDocument s doc).result.1 = .ok html := by
  have hfault := Formatter.firstFault?_standard s.style
    (doc.reached (Formatter.standard.answer s.style) none)
    fun q hq => hk q (doc.mem_members_of_visited none
      ((Formatter.standard.reached_sublist s.style doc).subset hq))
  rw [hasBadPrefix_style h] at hfault
  rw [renderDocument_result, projected?_html h]
  cases badRewriter? pairs with
  | some e => rfl
  | none =>
    show if (doc.reached (Formatter.standard.answer s.style) none).any (fun q => q.node.isHeading) &&
          givesBadPrefix pairs then
        (Formatter.standard.format s.style doc).1.mapError Failure.render =
          .error (.render .anchorPrefixNotText)
      else ∃ html, (Formatter.standard.format s.style doc).1.mapError Failure.render = .ok html
    split
    · next hc =>
      rw [if_pos hc] at hfault
      rw [(Formatter.format_error_iff _ _).mpr hfault]
      rfl
    · next hc =>
      rw [if_neg hc] at hfault
      obtain ⟨html, hhtml⟩ := (Formatter.format_ok_iff _ _).mpr hfault
      rw [hhtml]
      exact ⟨html, rfl⟩

/-- With a rewriter that is none the program reads its input, and ends as if the Markdown could not be
rendered. -/
theorem renderInput_badRewriter {m : Type → Type} [Monad m] (host : Host m) (journal : Journal)
    (i : Invocation) (h : ofPairs? .render pairs = .ok s) {e : SettingsError}
    (he : badRewriter? pairs = some e) {text : List Char} {doc : Node}
    (hdoc : (documentOf (Markdown.tokensOf (.ofSettings (s.restricted .reader))
      (String.ofList text))).1 = .ok doc) :
    ∃ log : List LogRecord, renderInput host journal i s text = (do
      log.forM (journal.write host)
      journal.write host (.ofCommand "Rendering failed")
      report host e.message
      return .notRendered) := by
  refine ⟨_, renderInput_options host journal i ?_⟩
  rw [renderText_result, hdoc]
  show (renderDocument s doc).result.1 = .error (.options e)
  rw [renderDocument_result, projected?_html h, he]

/-- **What becomes of a document with an accepted record.** The parts for reading and for the overrides
are there. The part for the markup is there unless something is given for a rewriter that is none. A
document of known kinds is rendered then, unless the rendering comes to a heading and what is given for
the prefix of anchors is no text. There is no other way to fail, so all such documents are rendered
exactly if the rewriters and the prefix are what they should be. -/
theorem renderDocument_accepted (h : ofPairs? .render pairs = .ok s) :
    s.projected? .reader = .ok (s.restricted .reader) ∧
    s.projected? .user = .ok (s.restricted .user) ∧
    (s.projected? .html =
      match badRewriter? pairs with
      | some e => .error e
      | none => .ok (s.restricted .html)) ∧
    (∀ doc : Node, (∀ q ∈ doc.members none, q.node.isForeign = false) →
      match badRewriter? pairs with
      | some e => (renderDocument s doc).result.1 = .error (.options e)
      | none =>
        if (doc.reached (Formatter.standard.answer s.style) none).any (fun q => q.node.isHeading) &&
            givesBadPrefix pairs then
          (renderDocument s doc).result.1 = .error (.render .anchorPrefixNotText)
        else ∃ html, (renderDocument s doc).result.1 = .ok html) ∧
    ((∀ doc : Node, (∀ q ∈ doc.members none, q.node.isForeign = false) →
        ∃ html, (renderDocument s doc).result.1 = .ok html) ↔
      badRewriter? pairs = none ∧ givesBadPrefix pairs = false) := by
  refine ⟨s.projected?_reader, s.projected?_user, projected?_html h,
    fun doc hk => renderDocument_known h hk, ?_⟩
  constructor
  · intro hall
    -- A heading alone shows both: nothing is rendered with a bad rewriter, and no heading with a bad
    -- prefix.
    let doc : Node := .box (.heading .top) {} []
    have hk : ∀ q ∈ doc.members none, q.node.isForeign = false := by
      intro q hq
      rw [List.mem_singleton.mp hq]
      rfl
    obtain ⟨html, hhtml⟩ := hall doc hk
    have hdoc := renderDocument_known h hk
    rw [hhtml] at hdoc
    cases hbad : badRewriter? pairs with
    | some e =>
      rw [hbad] at hdoc
      cases hdoc
    | none =>
      rw [hbad] at hdoc
      refine ⟨rfl, ?_⟩
      cases hids : givesBadPrefix pairs with
      | false => rfl
      | true =>
        rw [hids] at hdoc
        cases hdoc
  · rintro ⟨hbad, hids⟩ doc hk
    have hdoc := renderDocument_known h hk
    rw [hbad, hids] at hdoc
    simpa using hdoc

/-- A wrong setting for a flag, with a right one behind it, a text for the anchors and a rewriter. -/
theorem renderDocument_accepted_rewriter :
    let pairs : List (String × Setting) :=
      [("smart", .value (.int 1)), ("link-url-rewriter", .rewriter (.before "/go?")),
        ("header_ids", .value (.str "h-")), ("smart", .value (.bool true))]
    ∃ s, ofPairs? .render pairs = .ok s ∧
      ∀ doc : Node, (∀ q ∈ doc.members none, q.node.isForeign = false) →
        ∃ html, (renderDocument s doc).result.1 = .ok html := by
  intro pairs
  have hknown : ¬HasUnknownKey pairs := by
    rintro ⟨p, hp, hk⟩
    simp only [pairs, List.mem_cons, List.not_mem_nil, or_false] at hp
    rcases hp with rfl | rfl | rfl | rfl
    · exact hk (.flag .smart) rfl
    · exact hk .linkUrlRewriter rfl
    · exact hk .headerIds rfl
    · exact hk (.flag .smart) rfl
  obtain ⟨s, hs, -⟩ := ofPairs?_ok hknown rfl
  obtain ⟨-, -, -, -, hall⟩ := renderDocument_accepted hs
  exact ⟨s, hs, hall.mpr ⟨rfl, rfl⟩⟩

/-- A text for a rewriter is accepted. The part for the markup is refused later, and with it every
document. -/
theorem renderDocument_rewriterText :
    let pairs : List (String × Setting) := [("link_url_rewriter", .value (.str "x"))]
    let e : SettingsError := .notCallable "link_url_rewriter" (.value (.str "x"))
    ∃ s, ofPairs? .render pairs = .ok s ∧ s.projected? .html = .error e ∧
      e.message = "link_url_rewriter must be callable, got str" ∧
      ∀ doc : Node, (renderDocument s doc).result.1 = .error (.options e) := by
  intro pairs e
  have hknown : ¬HasUnknownKey pairs := by
    rintro ⟨p, hp, hk⟩
    obtain rfl := List.mem_singleton.mp hp
    exact hk .linkUrlRewriter rfl
  obtain ⟨s, hs, -⟩ := ofPairs?_ok hknown rfl
  have hhtml : s.projected? .html = .error e := projected?_html hs
  refine ⟨s, hs, hhtml, rfl, fun doc => ?_⟩
  rw [renderDocument_result, hhtml]

end Settings

end FlavoredMarkdown
