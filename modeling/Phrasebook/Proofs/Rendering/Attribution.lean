import Phrasebook.Bundle
import Phrasebook.Proofs.Rendering.Message
import Phrasebook.Proofs.Rendering.Stopping
import Phrasebook.Proofs.Template.Nesting

/-! # Errors name the place they come from

    A message that can not be rendered has one part that is the first to fail, a placeholder. Either
    its parameter is missing, or its formatter stops at a value of its settings: a string that is no
    template, or a message that can not be rendered itself (`Message.Stops`). So from the message a
    path leads down to one cause (`FailsAlong`), through codes, variants and placeholders, and the
    error knows the path by its ends: the outermost code, the innermost placeholder, and whether
    there are variants between them. -/

namespace Phrasebook

/-! ### Paths -/

/-- What stands on the path from a message to the cause of its error. -/
inductive PathNode where
  /-- The code of the message behind it. -/
  | code (code : String)
  /-- The choice of a variant. -/
  | variants
  /-- The place of a parameter. -/
  | place (name : String)
deriving DecidableEq, Repr

namespace PathNode

/-- The code, if the node is one. -/
def code? : PathNode → Option String
  | .code name => some name
  | _ => none

/-- The name of the parameter, if the node is the place of one. -/
def place? : PathNode → Option String
  | .place name => some name
  | _ => none

/-- The codes on a path, the outermost one first. -/
def codes (path : List PathNode) : List String := path.filterMap code?

/-- The parameters on a path, the innermost one last. -/
def places (path : List PathNode) : List String := path.filterMap place?

@[simp] theorem codes_code (name : String) (path : List PathNode) :
    codes (.code name :: path) = name :: codes path := rfl

@[simp] theorem codes_variants (path : List PathNode) : codes (.variants :: path) = codes path :=
  rfl

@[simp] theorem codes_place (name : String) (path : List PathNode) :
    codes (.place name :: path) = codes path := rfl

@[simp] theorem places_code (name : String) (path : List PathNode) :
    places (.code name :: path) = places path := rfl

@[simp] theorem places_variants (path : List PathNode) :
    places (.variants :: path) = places path := rfl

@[simp] theorem places_place (name : String) (path : List PathNode) :
    places (.place name :: path) = name :: places path := rfl

end PathNode

open PathNode

variable {context : Context} {parameters : Parameters}

/-- The first part that can not be rendered. -/
def Message.failingPart? (context : Context) (parameters : Parameters) (message : Message) :
    Option Part :=
  message.parts.find? fun part => !(renderPart context parameters part).isOk

/-- Formats a value in a place, given how messages in its settings are rendered. -/
def formatPlace (context : Context) (parameters : Parameters) (place : Placeholder) (value : Value)
    (nested : NestedRenderer place.settings) : Except RenderError Fragment :=
  formatValue ⟨context, parameters, place.settings⟩ nested place.format value

/-- Rendering the message stops in a place: there is the cause of the error, or a message that has
    it. -/
inductive Message.Stops (context : Context) (parameters : Parameters) (message : Message) :
    Placeholder → Except RenderCause Message → Prop
  /-- The parameter is missing. -/
  | missing {place : Placeholder}
      (part : message.failingPart? context parameters = some (.placeholder place))
      (strict : context.strict = true) (absent : parameters.get? place.name = none) :
      Stops context parameters message place (.error (.missingParameter place.name))
  /-- Formatting stops at a value of the settings. -/
  | nested {place : Placeholder} {value : Value} {v : SettingValue}
      (part : message.failingPart? context parameters = some (.placeholder place))
      (supplied : context.valueOf parameters place.name = .ok value)
      (stops : StopsAt (formatPlace context parameters place value)
        (fun v _ => renderNested context parameters v) v) :
      Stops context parameters message place (v.toMessage.mapError .nestedTemplate)

/-- The message can not be rendered because of what stands at the end of the path. -/
inductive FailsAlong (context : Context) (parameters : Parameters) :
    Message → List PathNode → RenderCause → Prop
  /-- The cause is behind a code. -/
  | coded {code : String} {inner : Message} {path : List PathNode} {cause : RenderCause}
      (h : FailsAlong context parameters inner path cause) :
      FailsAlong context parameters (.coded code inner) (.code code :: path) cause
  /-- The cause is in the variant that is chosen. -/
  | variant {variants : List (Locale × Message)} {variant : Message} {path : List PathNode}
      {cause : RenderCause}
      (hs : selectVariant variants (context.localeFor parameters) = some variant)
      (h : FailsAlong context parameters variant path cause) :
      FailsAlong context parameters (.localized variants) (.variants :: path) cause
  /-- The cause is in a place. -/
  | here {message : Message} {place : Placeholder} {cause : RenderCause}
      (hs : message.Stops context parameters place (.error cause)) :
      FailsAlong context parameters message [.place place.name] cause
  /-- The cause is in a message that is nested in a place. -/
  | nested {message inner : Message} {place : Placeholder} {path : List PathNode}
      {cause : RenderCause} (hs : message.Stops context parameters place (.ok inner))
      (h : FailsAlong context parameters inner path cause) :
      FailsAlong context parameters message (.place place.name :: path) cause

/-! ### One step -/

namespace Message

variable {message : Message} {place place' : Placeholder}
  {found found' : Except RenderCause Message}

theorem Stops.failingPart? (h : message.Stops context parameters place found) :
    message.failingPart? context parameters = some (.placeholder place) := by
  cases h <;> assumption

/-- There is one place, and one thing in it, where rendering stops. -/
theorem Stops.unique (h : message.Stops context parameters place found)
    (h' : message.Stops context parameters place' found') : place' = place ∧ found' = found := by
  obtain rfl : place' = place := by
    have heq := h'.failingPart?.symm.trans h.failingPart?
    injection heq with heq
    injection heq
  refine ⟨rfl, ?_⟩
  cases h with
  | missing _ strict absent =>
    cases h' with
    | missing => rfl
    | nested _ supplied => cases (Context.valueOf_of_missing strict absent).symm.trans supplied
  | nested _ supplied stops =>
    cases h' with
    | missing _ strict absent =>
      cases (Context.valueOf_of_missing strict absent).symm.trans supplied
    | nested _ supplied' stops' =>
      obtain rfl := Except.ok.inj (supplied.symm.trans supplied')
      rw [stops.unique stops']

/-- A lone placeholder stops where formatting does. -/
theorem stops_single {value : Value} {v : SettingValue}
    (hvalue : context.valueOf parameters place.name = .ok value)
    (hs : StopsAt (formatPlace context parameters place value)
      (fun v _ => renderNested context parameters v) v) :
    (Message.single (.placeholder place)).Stops context parameters place
      (v.toMessage.mapError .nestedTemplate) := by
  obtain ⟨e, he⟩ := hs.fails
  have hpart : renderPart context parameters (.placeholder place) =
      .error (e.withParameter place.name) := by
    refine renderPlaceholder_of_error ?_
    rw [hvalue]
    exact hs.passes _ (.refl _) e he
  exact .nested (List.find?_cons_of_pos (by rw [hpart]; rfl)) hvalue hs

theorem Stops.nests {inner : Message} (h : message.Stops context parameters place (.ok inner)) :
    message.Nests (.ok inner) := by
  have hpart := List.mem_of_find?_eq_some h.failingPart?
  generalize hfound : Except.ok inner = found at h
  cases h with
  | missing => cases hfound
  | nested _ _ stops =>
    exact .value hpart stops.mem (eq_ok_of_mapError_eq_ok hfound.symm)

/-- What is missing is the parameter of the place. -/
theorem Stops.name_eq {name : String}
    (h : message.Stops context parameters place (.error (.missingParameter name))) :
    place.name = name := by
  generalize hfound : Except.error (RenderCause.missingParameter name) = found at h
  cases h with
  | missing =>
    cases hfound
    rfl
  | @nested _ v =>
    cases hread : v.toMessage <;> rw [hread] at hfound <;> cases hfound

/-- Only messages of parts stop in one of them. -/
theorem Stops.ne (h : message.Stops context parameters place found) :
    (∀ variants, message ≠ .localized variants) ∧ ∀ code inner, message ≠ .coded code inner := by
  have hpart := h.failingPart?
  constructor
  · rintro variants rfl
    cases hpart
  · rintro code inner rfl
    cases hpart

/-- Renders what rendering stops at. -/
def renderFound (context : Context) (parameters : Parameters) :
    Except RenderCause Message → Except RenderError Fragment
  | .ok inner => renderMessage context parameters inner
  | .error cause => .error { cause }

theorem renderFound_toMessage (v : SettingValue) :
    renderFound context parameters (v.toMessage.mapError .nestedTemplate) =
      renderNested context parameters v := by
  unfold renderFound renderNested
  cases v.toMessage <;> rfl

/-- The error of what rendering stops at is that of the message, and learns the parameter. -/
theorem Stops.renderMessage_eq {e : RenderError}
    (h : message.Stops context parameters place found)
    (he : renderFound context parameters found = .error e) :
    renderMessage context parameters message = .error (e.withParameter place.name) := by
  have hpart : renderPart context parameters (.placeholder place) =
      .error (e.withParameter place.name) := by
    refine renderPlaceholder_of_error ?_
    cases h with
    | missing _ strict absent =>
      rw [Context.valueOf_of_missing strict absent]
      exact he
    | nested _ supplied stops =>
      rw [renderFound_toMessage] at he
      rw [supplied]
      exact stops.passes _ (.refl _) e he
  rw [renderMessage_parts h.ne.1 h.ne.2, mapM_eq_error_iff.2 ⟨_, h.failingPart?, hpart⟩]
  rfl

/-- A message of parts fails at one of them, and there at something that fails. -/
theorem exists_stops {e : RenderError} (hb : context.registry.AllBuiltin)
    (hl : ∀ variants, message ≠ .localized variants)
    (hc : ∀ code inner, message ≠ .coded code inner)
    (h : renderMessage context parameters message = .error e) :
    ∃ place found e', message.Stops context parameters place found ∧
      renderFound context parameters found = .error e' := by
  rw [renderMessage_parts hl hc] at h
  obtain ⟨part, hpart, he⟩ := mapM_eq_error_iff.1 (eq_error_of_map_eq_error h)
  cases part with
  | literal text => cases he
  | placeholder place =>
    cases hvalue : context.valueOf parameters place.name with
    | error e' =>
      obtain ⟨strict, absent, rfl⟩ := Context.valueOf_eq_error_iff.1 hvalue
      exact ⟨place, _, _, .missing hpart strict absent, rfl⟩
    | ok value =>
      rw [renderPart, renderPlaceholder_eq, hvalue] at he
      obtain ⟨e', hr, -⟩ := exists_of_mapError_eq_error he
      have hformat : formatPlace context parameters place value
          (fun v _ => renderNested context parameters v) = .error e' :=
        eq_error_of_map_eq_error hr
      obtain ⟨v, hv⟩ := (GoesOrStops.formatValue hb place.format value).stopsAt hformat
      refine ⟨place, _, e', .nested hpart hvalue hv, ?_⟩
      rw [renderFound_toMessage]
      exact hv.eq_error hformat

end Message

/-! ### Whole paths -/

/-- The error that a cause becomes on its way up a path. -/
def errorAlong (context : Context) (parameters : Parameters) (path : List PathNode)
    (cause : RenderCause) : RenderError :=
  { cause
    code := (codes path).head?
    locale := if .variants ∈ path then some (context.localeFor parameters) else none
    parameter := (places path).getLast? }

section Paths

variable {message : Message} {path path' : List PathNode} {cause cause' : RenderCause}

theorem errorAlong_code (code : String) :
    (errorAlong context parameters path cause).withCode code =
      errorAlong context parameters (.code code :: path) cause := by
  simp [errorAlong, RenderError.withCode]

theorem errorAlong_variants :
    (errorAlong context parameters path cause).withLocale (context.localeFor parameters) =
      errorAlong context parameters (.variants :: path) cause := by
  simp [errorAlong, RenderError.withLocale]

/-- The innermost parameter is known first, so those around it are not added. -/
theorem errorAlong_place (name : String) :
    (errorAlong context parameters path cause).withParameter name =
      errorAlong context parameters (.place name :: path) cause := by
  cases hlast : (places path).getLast? with
  | none => simp [errorAlong, RenderError.withParameter, List.getLast?_cons, hlast]
  | some inner => simp [errorAlong, RenderError.withParameter, List.getLast?_cons, hlast]

/-- Where a path leads to a cause, this is the cause of the error, and the path its place. -/
theorem FailsAlong.renderMessage_eq (h : FailsAlong context parameters message path cause) :
    renderMessage context parameters message =
      .error (errorAlong context parameters path cause) := by
  induction h with
  | coded h ih =>
    rw [renderMessage_coded, ih, ← errorAlong_code]
    rfl
  | variant hs h ih =>
    rw [renderMessage_of_select hs, ih, ← errorAlong_variants]
    rfl
  | here hs =>
    rw [hs.renderMessage_eq rfl, ← errorAlong_place]
    rfl
  | nested hs h ih => rw [hs.renderMessage_eq ih, errorAlong_place]

/-- No other path leads to a cause. -/
theorem FailsAlong.unique (h : FailsAlong context parameters message path cause)
    (h' : FailsAlong context parameters message path' cause') : path' = path ∧ cause' = cause := by
  induction h generalizing path' with
  | coded h ih =>
    cases h' with
    | coded h' => exact (ih h').imp_left (congrArg _)
    | here hs | nested hs => exact absurd rfl (hs.ne.2 _ _)
  | variant hs h ih =>
    cases h' with
    | variant hs' h' =>
      obtain rfl := Option.some.inj (hs.symm.trans hs')
      exact (ih h').imp_left (congrArg _)
    | here hs | nested hs => exact absurd rfl (hs.ne.1 _)
  | here hs =>
    cases h' with
    | coded h' => exact absurd rfl (hs.ne.2 _ _)
    | variant hs' h' => exact absurd rfl (hs.ne.1 _)
    | here hs' =>
      obtain ⟨rfl, hfound⟩ := hs.unique hs'
      exact ⟨rfl, Except.error.inj hfound⟩
    | nested hs' => cases (hs.unique hs').2
  | nested hs h ih =>
    cases h' with
    | coded h' => exact absurd rfl (hs.ne.2 _ _)
    | variant hs' h' => exact absurd rfl (hs.ne.1 _)
    | here hs' => cases (hs.unique hs').2
    | nested hs' h' =>
      obtain ⟨rfl, hfound⟩ := hs.unique hs'
      obtain rfl := Except.ok.inj hfound
      exact (ih h').imp_left (congrArg _)

/-- Every error has a path that leads to its cause. -/
theorem exists_failsAlong {e : RenderError} (hb : context.registry.AllBuiltin)
    (h : renderMessage context parameters message = .error e) :
    ∃ path cause, FailsAlong context parameters message path cause := by
  induction message using Message.nests_induction generalizing e with
  | step message ih =>
    cases message using Message.cases_rendering with
    | localized variants =>
      cases hs : selectVariant variants (context.localeFor parameters) with
      | none =>
        rw [renderMessage_of_select_none hs] at h
        cases h
      | some variant =>
        obtain ⟨locale, hv⟩ := mem_of_selectVariant hs
        rw [renderMessage_of_select hs] at h
        obtain ⟨e', hr, -⟩ := exists_of_mapError_eq_error h
        obtain ⟨path, cause, hpath⟩ := ih variant (.variant hv) hr
        exact ⟨_, _, .variant hs hpath⟩
    | coded code inner =>
      rw [renderMessage_coded] at h
      obtain ⟨e', hr, -⟩ := exists_of_mapError_eq_error h
      obtain ⟨path, cause, hpath⟩ := ih inner (.coded code inner) hr
      exact ⟨_, _, .coded hpath⟩
    | parts message hl hc =>
      obtain ⟨place, found, e', hs, he⟩ := Message.exists_stops hb hl hc h
      cases found with
      | error cause => exact ⟨_, _, .here hs⟩
      | ok inner =>
        obtain ⟨path, cause, hpath⟩ := ih inner hs.nests he
        exact ⟨_, _, .nested hs hpath⟩

/-- A path leads through the place of a parameter, the last one of which is the one that is missing
    if there is one. -/
theorem FailsAlong.exists_innermost (h : FailsAlong context parameters message path cause) :
    ∃ name, (places path).getLast? = some name ∧ ∀ n, cause = .missingParameter n → name = n := by
  induction h with
  | coded _ ih => exact ih
  | variant _ _ ih => exact ih
  | @here _ place _ hs =>
    refine ⟨place.name, rfl, ?_⟩
    rintro n rfl
    exact hs.name_eq
  | nested _ _ ih =>
    obtain ⟨name, hlast, hname⟩ := ih
    refine ⟨name, ?_, hname⟩
    rw [places_place, List.getLast?_cons, hlast]
    rfl

end Paths

/-- An error names its place: there is one path from the message to a cause, the cause is that of
    the error, and the error names the innermost parameter, the outermost code, and the locale if
    there are variants on the path. A bundle names the code that it was asked for instead. -/
theorem render_error_attribution {message : Message} {e : RenderError}
    (hb : context.registry.AllBuiltin) (h : render context message parameters = .error e) :
    ∃ path : List PathNode,
      (∀ path' cause, FailsAlong context parameters message path' cause ↔
        path' = path ∧ cause = e.cause) ∧
      (∃ name, (places path).getLast? = some name ∧ e.parameter = some name ∧
        ∀ n, e.cause = .missingParameter n → name = n) ∧
      e.code = (codes path).head? ∧
      e.locale = (if .variants ∈ path then some (context.localeFor parameters) else none) ∧
      ∀ (bundle : Bundle) (code : String), bundle.get? code = some message →
        bundle.render context code parameters =
          .error (.rendering { e with code := some code }) := by
  have hrender : renderMessage context parameters message = .error e :=
    eq_error_of_map_eq_error h
  obtain ⟨path, cause, hpath⟩ := exists_failsAlong hb hrender
  obtain rfl := Except.error.inj (hrender.symm.trans hpath.renderMessage_eq)
  obtain ⟨name, hlast, hname⟩ := hpath.exists_innermost
  refine ⟨path, fun path' cause' => ⟨hpath.unique, ?_⟩, ⟨name, hlast, hlast, hname⟩, rfl, rfl, ?_⟩
  · rintro ⟨rfl, rfl⟩
    exact hpath
  · intro bundle code hget
    have hmessage : bundle.message code = .ok message := by rw [Bundle.message, hget]
    unfold Bundle.render
    rw [hmessage]
    dsimp only [bind, Except.bind]
    rw [h]
    rfl

/-- A message in the place of another parameter misses a name. The code around the whole is known,
    not the one around the name. -/
theorem render_error_attribution_nested :
    let name : Placeholder := ⟨"name", none, ⟨[], none⟩, false, false⟩
    let inner : Message := .coded "inner" (.single (.placeholder name))
    let count : Placeholder := ⟨"count", some "choice", ⟨[], some (.message inner)⟩, false, false⟩
    let message : Message := .coded "outer" (.localized [(.root, .single (.placeholder count))])
    let strict : Context := { Context.standard with strict := true }
    let parameters : Parameters := ⟨.root, [("count", .integer .i64 1)]⟩
    render strict message parameters =
        .error ⟨.missingParameter "name", some "outer", none, some .root, some "name"⟩ ∧
      ∀ path cause, FailsAlong strict parameters message path cause ↔
        path = [.code "outer", .variants, .place "count", .code "inner", .place "name"] ∧
          cause = .missingParameter "name" := by
  intro name inner count message strict parameters
  have hinner : FailsAlong strict parameters inner [.code "inner", .place "name"]
      (.missingParameter "name") := by
    have hstops : (Message.single (.placeholder name)).Stops strict parameters name
        (.error (.missingParameter "name")) := .missing rfl rfl rfl
    exact .coded (.here hstops)
  have hmem : .message inner ∈ count.settings.messageValues := List.mem_singleton_self _
  -- nothing is compared, so the formatter takes the message for everything else
  have hformat (nested : NestedRenderer count.settings) :
      formatPlace strict parameters count (.integer .i64 1) nested =
        nested (.message inner) (Settings.mem_values_of_mem_messageValues hmem) := by
    unfold formatPlace
    rw [formatValue.eq_def]
    rfl
  have hstops : StopsAt (formatPlace strict parameters count (.integer .i64 1))
      (fun v _ => renderNested strict parameters v) (.message inner) := by
    rw [funext hformat]
    exact stopsAt_nested hmem hinner.renderMessage_eq
  have hpath : FailsAlong strict parameters message
      [.code "outer", .variants, .place "count", .code "inner", .place "name"]
      (.missingParameter "name") :=
    .coded (.variant rfl (.nested (Message.stops_single rfl hstops) hinner))
  have hrender : render strict message parameters =
      .error ⟨.missingParameter "name", some "outer", none, some .root, some "name"⟩ := by
    rw [render, hpath.renderMessage_eq]
    rfl
  obtain ⟨path, hiff, -⟩ := render_error_attribution Registry.allBuiltin_standard hrender
  obtain ⟨rfl, -⟩ := (hiff _ _).1 hpath
  exact ⟨hrender, hiff⟩

end Phrasebook
