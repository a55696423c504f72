/-
Module: OwnerSwitch.Gateway.Engine
Layer: Gateway
Purpose: The decision on one call: the kill switch, a scoped kill, the first policy rule that covers the call, or the
  default. A rule's glob is compiled to a regular expression; `toolGlobMatches_iff_covers` says what it matches.
Imports: Gateway.Limits, Lib.RegExp
Trusted boundary: the regular expressions of the argument patterns
Main exports: Policy, evaluate, globToRegex, test_globToRegex, GlobCovers, glob_law_iff
Open obligations: none
-/
import OwnerSwitch.Gateway.Limits
import OwnerSwitch.Lib.RegExp

namespace OwnerSwitch

open RegExp

/-! ### Policies -/

inductive Decision where
  | allow | veto | approve | deny
  deriving DecidableEq, Repr

def Decision.text : Decision → JsString
  | .allow => js "allow"
  | .veto => js "veto"
  | .approve => js "approve"
  | .deny => js "deny"

structure PolicyRule where
  id : JsString
  description : Option JsString
  tool : JsString
  argsPattern : Option JsString
  decision : Decision
  deriving DecidableEq, Repr

structure Policy where
  /-- the first match wins -/
  rules : List PolicyRule
  defaultDecision : Decision
  deriving DecidableEq, Repr

/-- The part of a `KillState` that a decision reads. -/
structure EngineKillState where
  killed : Bool
  reason : Option JsString
  killedAgents : List JsString
  deriving DecidableEq, Repr

/-- The verdict on one call. -/
structure PolicyVerdict where
  decision : Decision
  ruleId : Option JsString
  reason : JsString
  deriving DecidableEq, Repr

/-! ### Globs -/

/-- The class `escapeRe` looks for. -/
def escapedUnits : JsString :=
  js ".*+?^$\x7b\x7d()|[]\\"

def escapeRe (s : JsString) : JsString :=
  s.flatMap fun u => if escapedUnits.contains u then [0x5C, u] else [u]

/-- `globToRegex`, as the text of its pattern. -/
def globToRegex (glob : JsString) : JsString :=
  js "^" ++ joinStrings (js ".*") ((glob.splitOn 0x2A).map escapeRe) ++ js "$"

/-- The rules a tool name can meet, in policy order. -/
def rulesMatchingTool (policy : Policy) (tool : JsString) : List PolicyRule :=
  policy.rules.filter fun rule => toolGlobMatches rule.tool tool

/-! ### The decision -/

section Evaluate

-- `new RegExp(pattern).test(text)`, or none where the pattern is none
variable (regExpTest : JsString → JsString → Option Bool)

/-- Whether a candidate's argument pattern lets it fire; the empty pattern counts as absent. -/
def PolicyRule.fires (rule : PolicyRule) (args : Option Json) : Option Bool :=
  match rule.argsPattern with
  | none => some true
  | some pattern =>
      if pattern = [] then some true else regExpTest pattern (Json.stringify (args.getD (.obj [])))

/-- The loop over the candidates; none where a pattern throws. -/
def evaluateRules (args : Option Json) (defaultDecision : Decision) : List PolicyRule → Option PolicyVerdict
  | [] => some ⟨defaultDecision, none, js "no rule matched — fail-closed default"⟩
  | rule :: rules =>
      match rule.fires regExpTest args with
      | none => none
      | some false => evaluateRules args defaultDecision rules
      | some true => some ⟨rule.decision, some rule.id, rule.description.getD (js "matched rule " ++ rule.id)⟩

/-- `evaluate`; none where a pattern throws. -/
def evaluate (call : ToolCall) (policy : Policy) (kill : EngineKillState) : Option PolicyVerdict :=
  if kill.killed then
    some ⟨.deny, none, js "kill switch engaged"
      ++ (if kill.reason.getD [] = [] then [] else js ": " ++ kill.reason.getD [])⟩
  else if kill.killedAgents.contains call.agentId then
    some ⟨.deny, none, js "agent \"" ++ call.agentId ++ js "\" is scope-killed — denied until an owner restores it"⟩
  else evaluateRules regExpTest call.args policy.defaultDecision (rulesMatchingTool policy call.tool)

end Evaluate

/-! ### What the compiled glob is -/

/-- The terms of a compiled glob: a star is any run, every other unit itself. -/
def globTerm (u : UInt16) : Term :=
  if u = 0x2A then .many .any else .one (.unit u)

/-- Their tokens. -/
def globTokens (u : UInt16) : List Token :=
  if u = 0x2A then [.atom .any, .star] else [.atom (.unit u)]

/-- The escaped units are those that mean something in a pattern. -/
theorem escapeRe_eq (s : JsString) : escapeRe s = s.flatMap escapeUnit := by
  have hperm : escapedUnits.Perm syntaxUnits := by decide +kernel
  have hunits : ∀ u : UInt16, escapedUnits.contains u = isSyntaxUnit u := by
    intro u
    rw [isSyntaxUnit, Bool.eq_iff_iff, List.contains_iff_mem, List.contains_iff_mem]
    exact hperm.mem_iff
  have hunit : (fun u : UInt16 => if escapedUnits.contains u then [0x5C, u] else [u]) = escapeUnit := by
    funext u
    rw [hunits, escapeUnit]
  rw [escapeRe, hunit]

theorem joinStrings_cons (sep part next : JsString) (parts : List JsString) :
    joinStrings sep (part :: next :: parts) = part ++ sep ++ joinStrings sep (next :: parts) := by
  unfold joinStrings
  rw [List.intersperse_cons_cons, List.flatten_cons, List.flatten_cons, List.append_assoc]

theorem joinStrings_append (sep text part : JsString) (parts : List JsString) :
    joinStrings sep ((text ++ part) :: parts) = text ++ joinStrings sep (part :: parts) := by
  cases parts with
  | nil => simp [joinStrings]
  | cons next parts => simp only [joinStrings_cons, List.append_assoc]

/-- The parts of a glob, escaped and joined, read as what its units stand for. -/
theorem tokens_globParts (glob s : JsString) :
    tokens false (joinStrings (js ".*") ((glob.splitOn 0x2A).map escapeRe) ++ s) =
      (tokens false s).map (glob.flatMap globTokens ++ ·) := by
  induction glob with
  | nil =>
      show tokens false s = _
      simp
  | cons u glob ih =>
      obtain ⟨part, parts, hparts⟩ := List.exists_cons_of_ne_nil (List.splitOn_ne_nil (0x2A : UInt16) glob)
      rw [List.splitOn_cons_eq_if_modifyHead]
      rw [hparts, List.map_cons] at ih
      rw [hparts, List.flatMap_cons]
      by_cases hu : u = 0x2A
      · rw [if_pos (by simpa using hu), List.map_cons, List.map_cons, joinStrings_cons, globTokens, if_pos hu]
        show ((tokens false (joinStrings (js ".*") (escapeRe part :: parts.map escapeRe) ++ s)).map
          (Token.star :: ·)).map (.atom .any :: ·) = _
        rw [ih, Option.map_map, Option.map_map]
        rfl
      · have hhead : escapeRe (u :: part) = escapeUnit u ++ escapeRe part := by
          rw [escapeRe_eq, escapeRe_eq, List.flatMap_cons]
        rw [if_neg (by simpa using hu), List.modifyHead_cons, List.map_cons, hhead, joinStrings_append,
          List.append_assoc,
          tokens_escapeUnit, ih, globTokens, if_neg hu, Option.map_map]
        rfl

/-- The pattern of a glob is read as one term for each of its units. -/
theorem terms_globTokens (glob : JsString) :
    terms (glob.flatMap globTokens ++ [.stop]) = some (glob.map globTerm ++ [.stop]) := by
  induction glob with
  | nil => rfl
  | cons u glob ih =>
      rw [List.flatMap_cons, List.map_cons, List.append_assoc, globTokens, globTerm]
      by_cases hu : u = 0x2A
      · rw [if_pos hu, if_pos hu]
        show (terms (glob.flatMap globTokens ++ [.stop])).map _ = _
        rw [ih]
        rfl
      · rw [if_neg hu, if_neg hu]
        have hone : ∀ ts, (∀ rest, ts ≠ Token.star :: rest) →
            terms (.atom (.unit u) :: ts) = (terms ts).map (.one (.unit u) :: ·) := by
          intro ts hts
          rw [terms]
          exact hts
        show terms (.atom (.unit u) :: (glob.flatMap globTokens ++ [.stop])) = _
        rw [hone, ih]
        · rfl
        · intro rest hrest
          cases glob with
          | nil => cases hrest
          | cons v glob =>
              rw [List.flatMap_cons, globTokens] at hrest
              split_ifs at hrest <;> cases hrest

/-- The text a glob is compiled to is read as an anchored pattern of its units. -/
theorem parse_globToRegex (glob : JsString) :
    parse (globToRegex glob) = some (.start :: (glob.map globTerm ++ [.stop])) := by
  have htokens : tokens false (globToRegex glob) = some (.start :: (glob.flatMap globTokens ++ [.stop])) := by
    show tokens false (0x5E :: (joinStrings (js ".*") ((glob.splitOn 0x2A).map escapeRe) ++ [0x24])) = _
    rw [tokens, tokens_globParts]
    rfl
  rw [parse, htokens, Option.bind_some, terms, terms_globTokens]
  rfl

/-! ### What the compiled glob matches -/

/-- Skipping over units is the repetition of any unit. -/
theorem skipAny_eq (rest : JsString → Bool) (b : Bool) (s : JsString) :
    skipAny rest s = repeated .any (fun _ => rest) b s := by
  induction s generalizing b with
  | nil => rfl
  | cons u s ih => rw [skipAny, repeated, ih]; rfl

/-- An empty part stands for a star. -/
theorem globPartsMatch_star (part : JsString) (parts : List JsString) (tool : JsString) :
    globPartsMatch ([] :: part :: parts) tool = skipAny (globPartsMatch (part :: parts)) tool := by
  rw [globPartsMatch, List.isPrefixOf_nil_left, Bool.true_and, List.length_nil, List.drop_zero]
  exact List.cons_ne_nil part parts

theorem globPartsMatch_unit (u : UInt16) (part : JsString) (parts : List JsString) (tool : JsString) :
    globPartsMatch ((u :: part) :: parts) tool =
      match tool with
      | [] => false
      | v :: tool => decide (u = v) && globPartsMatch (part :: parts) tool := by
  cases parts with
  | nil =>
      cases tool with
      | nil => rfl
      | cons v tool =>
          show ((v :: tool) == (u :: part)) = (decide (u = v) && (tool == part))
          rw [Bool.eq_iff_iff, beq_iff_eq, Bool.and_eq_true, decide_eq_true_eq, beq_iff_eq, List.cons.injEq,
            eq_comm (a := v)]
  | cons next parts =>
      cases tool with
      | nil => rfl
      | cons v tool =>
          rw [Bool.eq_iff_iff]
          simp [globPartsMatch, List.isPrefixOf, and_assoc]

/-- The parts of a glob match as its compiled terms do. -/
theorem matchHere_globTerms (glob : JsString) (b : Bool) (tool : JsString) :
    matchHere (glob.map globTerm ++ [.stop]) b tool = toolGlobMatches glob tool := by
  unfold toolGlobMatches
  induction glob generalizing b tool with
  | nil =>
      show (tool.isEmpty && true) = (tool == [])
      cases tool <;> rfl
  | cons u glob ih =>
      obtain ⟨part, parts, hparts⟩ := List.exists_cons_of_ne_nil (List.splitOn_ne_nil (0x2A : UInt16) glob)
      rw [List.splitOn_cons_eq_if_modifyHead, hparts, List.map_cons, globTerm]
      rw [hparts] at ih
      by_cases hu : u = 0x2A
      · rw [if_pos hu, if_pos (by simpa using hu), globPartsMatch_star, skipAny_eq _ b]
        show repeated .any (matchHere (glob.map globTerm ++ [.stop])) b tool = _
        congr 1
        funext b tool
        exact ih b tool
      · rw [if_neg hu, if_neg (by simpa using hu), List.modifyHead_cons, globPartsMatch_unit]
        cases tool with
        | nil => rfl
        | cons v tool =>
            show (decide (u = v) && matchHere (glob.map globTerm ++ [.stop]) false tool) = _
            rw [ih]

/-- `toolGlobMatches` is what the engine's regular expression answers. -/
theorem test_globToRegex (glob tool : JsString) : test (globToRegex glob) tool = some (toolGlobMatches glob tool) := by
  rw [test, parse_globToRegex, Option.map_some, search_anchored, matchHere_globTerms]

/-- The tool name is the glob with some text in place of each star. -/
inductive GlobCovers : JsString → JsString → Prop where
  | nil : GlobCovers [] []
  | star {glob tool : JsString} (text : JsString) (rest : GlobCovers glob tool) :
      GlobCovers (0x2A :: glob) (text ++ tool)
  | unit {u : UInt16} {glob tool : JsString} (plain : u ≠ 0x2A) (rest : GlobCovers glob tool) :
      GlobCovers (u :: glob) (u :: tool)

/-- How many line terminators a text has. -/
def lineTerminators (s : JsString) : Nat :=
  s.countP isLineTerminator

theorem lineTerminators_star (glob : JsString) : lineTerminators (0x2A :: glob) = lineTerminators glob :=
  List.countP_cons_of_neg (by decide)

theorem lineTerminators_append (s t : JsString) : lineTerminators (s ++ t) = lineTerminators s + lineTerminators t :=
  List.countP_append

theorem lineTerminators_cons_inj {u : UInt16} {s t : JsString} :
    lineTerminators (u :: s) = lineTerminators (u :: t) ↔ lineTerminators s = lineTerminators t := by
  rw [lineTerminators, lineTerminators, List.countP_cons, List.countP_cons, Nat.add_right_cancel_iff]
  rfl

/-- A run of the wildcard is a text without line terminators. -/
theorem any_accepts_iff {text : JsString} : (∀ u ∈ text, Atom.any.accepts u = true) ↔ lineTerminators text = 0 := by
  rw [lineTerminators, List.countP_eq_zero]
  constructor
  · intro h u hu
    have haccepts : (!isLineTerminator u) = true := h u hu
    simpa using haccepts
  · intro h u hu
    show (!isLineTerminator u) = true
    simpa using h u hu

/-- A glob's own line terminators stand in every name it covers. -/
theorem GlobCovers.lineTerminators_le {glob tool : JsString} (h : GlobCovers glob tool) :
    lineTerminators glob ≤ lineTerminators tool := by
  induction h with
  | nil => exact le_rfl
  | star text rest ih =>
      rw [lineTerminators_star, lineTerminators_append]
      exact ih.trans (Nat.le_add_left _ _)
  | unit plain rest ih =>
      rw [lineTerminators, lineTerminators, List.countP_cons, List.countP_cons]
      exact Nat.add_le_add_right ih _

/-- A compiled glob matches the names it covers without putting a line terminator in place of a star. -/
theorem matchHere_iff_covers (glob : JsString) (b : Bool) (tool : JsString) :
    matchHere (glob.map globTerm ++ [.stop]) b tool = true ↔
      GlobCovers glob tool ∧ lineTerminators tool = lineTerminators glob := by
  induction glob generalizing b tool with
  | nil =>
      show (tool.isEmpty && true) = true ↔ _
      rw [Bool.and_true, List.isEmpty_iff]
      constructor
      · rintro rfl
        exact ⟨.nil, rfl⟩
      · rintro ⟨hcovers, -⟩
        cases hcovers
        rfl
  | cons u glob ih =>
      rw [List.map_cons, globTerm]
      by_cases hu : u = 0x2A
      · subst hu
        rw [if_pos rfl, lineTerminators_star]
        show repeated .any (matchHere (glob.map globTerm ++ [.stop])) b tool = true ↔ _
        rw [repeated_iff]
        constructor
        · rintro ⟨text, rest, rfl, htext, hrest⟩
          obtain ⟨hcovers, hcount⟩ := (ih _ rest).mp hrest
          refine ⟨.star text hcovers, ?_⟩
          rw [lineTerminators_append, any_accepts_iff.mp htext, Nat.zero_add]
          exact hcount
        · rintro ⟨hcovers, hcount⟩
          cases hcovers with
          | @star _ tool text rest =>
              have hle := rest.lineTerminators_le
              rw [lineTerminators_append] at hcount
              have hnone : lineTerminators text = 0 := by omega
              rw [hnone, Nat.zero_add] at hcount
              exact ⟨text, tool, rfl, any_accepts_iff.mpr hnone, (ih _ tool).mpr ⟨rest, hcount⟩⟩
          | unit plain => exact absurd rfl plain
      · rw [if_neg hu]
        cases tool with
        | nil =>
            constructor
            · intro h
              cases h
            · rintro ⟨hcovers, -⟩
              generalize htool : ([] : JsString) = tool at hcovers
              cases hcovers with
              | star => exact absurd rfl hu
              | unit => cases htool
        | cons v tool =>
            show (decide (u = v) && matchHere (glob.map globTerm ++ [.stop]) false tool) = true ↔ _
            rw [Bool.and_eq_true, decide_eq_true_eq, ih]
            constructor
            · rintro ⟨rfl, hcovers, hcount⟩
              exact ⟨.unit hu hcovers, lineTerminators_cons_inj.mpr hcount⟩
            · rintro ⟨hcovers, hcount⟩
              generalize htool : v :: tool = name at hcovers
              cases hcovers with
              | star => exact absurd rfl hu
              | unit plain rest =>
                  obtain ⟨rfl, rfl⟩ := List.cons.inj htool
                  exact ⟨rfl, rest, lineTerminators_cons_inj.mp hcount⟩

/-- A glob matches the names that it covers and that have line terminators where it has them. -/
theorem toolGlobMatches_iff (glob tool : JsString) : toolGlobMatches glob tool = true ↔
    GlobCovers glob tool ∧ lineTerminators tool = lineTerminators glob := by
  rw [← matchHere_globTerms glob true tool]
  exact matchHere_iff_covers glob true tool

/-- A lone star covers every name. -/
theorem lone_star_covers (tool : JsString) : GlobCovers (js "*") tool := by
  have h := GlobCovers.star tool .nil
  rwa [List.append_nil] at h

/-- A glob says what it means of a name: wherever it is consulted, it takes the name if it covers it, and only then. -/
structure GlobLaw (glob tool : JsString) : Prop where
  exact : toolGlobMatches glob tool = true ↔ GlobCovers glob tool
  /-- a policy rule is a candidate of the calls its glob covers -/
  candidate : ∀ (policy : Policy) (rule : PolicyRule), rule ∈ policy.rules → rule.tool = glob →
    (rule ∈ rulesMatchingTool policy tool ↔ GlobCovers glob tool)
  /-- a limit rule without a pattern counts them -/
  counted : ∀ (regExpTest : JsString → JsString → Bool) (rule : LimitRule) (metrics : List LimitMetric)
    (call : ToolCall),
    rule.tool = glob → call.tool = tool → rule.argsPattern = none → rule.metric ∈ metrics →
      (rule.counts regExpTest metrics call = true ↔ GlobCovers glob tool)

/-- An exact match makes the law hold. -/
theorem GlobLaw.of_exact {glob tool : JsString} (h : toolGlobMatches glob tool = true ↔ GlobCovers glob tool) :
    GlobLaw glob tool := by
  constructor
  · exact h
  · intro policy rule hmem hglob
    rw [rulesMatchingTool, List.mem_filter, hglob, h]
    exact ⟨fun hrule => hrule.2, fun hcovers => ⟨hmem, hcovers⟩⟩
  · intro regExpTest rule metrics call hglob htool hpattern hmetric
    rw [LimitRule.counts, hglob, htool, hpattern, Bool.and_true, Bool.and_eq_true, List.contains_iff_mem, h]
    exact ⟨fun hrule => hrule.2, fun hcovers => ⟨hmetric, hcovers⟩⟩

/-- A glob says what it means of a name if and only if it does not cover the name by a text with line terminators in
    place of a star. -/
theorem glob_law_iff (glob tool : JsString) :
    GlobLaw glob tool ↔ ¬ (GlobCovers glob tool ∧ lineTerminators glob < lineTerminators tool) := by
  constructor
  · rintro hlaw ⟨hcovers, hlt⟩
    have hcount := ((toolGlobMatches_iff glob tool).mp (hlaw.exact.mpr hcovers)).2
    omega
  · intro hnone
    apply GlobLaw.of_exact
    rw [toolGlobMatches_iff]
    constructor
    · exact fun h => h.1
    · intro hcovers
      have hle := hcovers.lineTerminators_le
      have hge : ¬ lineTerminators glob < lineTerminators tool := fun hlt => hnone ⟨hcovers, hlt⟩
      exact ⟨hcovers, by omega⟩

/-- A rule that denies every tool does not see a name with a line feed, and the default lets it pass. -/
theorem lone_star_misses : ¬ GlobLaw (js "*") (js "a\nb") ∧
    evaluate (fun _ _ => none) ⟨js "agent", js "a\nb", none⟩ ⟨[⟨js "all", none, js "*", none, .deny⟩], .allow⟩ ⟨false, none, []⟩ =
      some ⟨.allow, none, js "no rule matched — fail-closed default"⟩ := by
  constructor
  · intro hlaw
    have hmatches := hlaw.exact.mpr (lone_star_covers (js "a\nb"))
    exact absurd hmatches (by decide)
  · decide

end OwnerSwitch
