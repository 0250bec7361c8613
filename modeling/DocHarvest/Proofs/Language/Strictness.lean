import DocHarvest.Proofs.Language.Examined

/-!
# Stricter settings

Settings are stricter if they leave out one-line functions where the others do, and their bounds lie
within the others'. They leave out records and change nothing else (`records_of_stricter`): one that
is missing is that of a one-line function, or has a number of words outside the tighter bounds.
-/

namespace DocHarvest

namespace LanguageRules

/-- Whether a function has a body, and fits on one row in the sense of its language. -/
def isOneLine (rules : LanguageRules) (function : Node) : Bool :=
  (rules.body? function).any fun body => (rules.bodyExtent function body).span.isSingleLine

variable {rules : LanguageRules} {strict loose : ExtractOptions}

theorem isBodyEmpty_of_stricter
    (stricter : loose.skipSingleLineBodies = true → strict.skipSingleLineBodies = true)
    (function : Node) :
    rules.isBodyEmpty function strict =
      (strict.skipSingleLineBodies && rules.isOneLine function ||
        rules.isBodyEmpty function loose) := by
  unfold isBodyEmpty isOneLine
  cases rules.body? function with
  | none => simp
  | some body =>
    cases hs : strict.skipSingleLineBodies with
    | true => cases loose.skipSingleLineBodies <;> simp
    | false =>
      have off : loose.skipSingleLineBodies = false := by
        simpa [hs] using stricter
      simp [off]

/-- Stricter settings drop a one-line function, and make the same of any other. -/
theorem extractDefinition?_of_stricter
    (stricter : loose.skipSingleLineBodies = true → strict.skipSingleLineBodies = true)
    (site : DefinitionSite) (owner : Option Text) (source : SourceLines) :
    rules.extractDefinition? site owner source strict =
      if strict.skipSingleLineBodies && rules.isOneLine site.node then none
      else rules.extractDefinition? site owner source loose := by
  unfold extractDefinition?
  simp only [isBodyEmpty_of_stricter stricter]
  cases strict.skipSingleLineBodies && rules.isOneLine site.node with
  | true => rfl
  | false => simp

theorem documented_of_stricter
    (stricter : loose.skipSingleLineBodies = true → strict.skipSingleLineBodies = true)
    (root : Node) (source : SourceLines) :
    rules.documented root source strict =
      (rules.documented root source loose).filter fun found =>
        !(strict.skipSingleLineBodies && rules.isOneLine found.1.node) := by
  unfold documented documentedAmong
  rw [List.filter_filterMap]
  congr 1
  funext entry
  rw [extractDefinition?_of_stricter stricter]
  cases rules.extractDefinition? entry.1 entry.2 source loose with
  | none => simp
  | some d =>
    rw [Option.map_some, Option.filter_some]
    cases strict.skipSingleLineBodies && rules.isOneLine entry.1.node <;> rfl

/-- Under stricter settings a source file is skipped for the same reason or not at all, and its
records are those under the others without some: each of these is the record of a function that the
stricter settings leave out as one-line, or has a number of words that they do not admit. -/
theorem records_of_stricter (rules : LanguageRules) {strict loose : ExtractOptions}
    {tight wide : TokenBounds}
    (stricter : loose.skipSingleLineBodies = true → strict.skipSingleLineBodies = true)
    (within : ∀ count, tight.admits count = true → wide.admits count = true)
    (tree : Node) (unit : SourceUnit) :
    (∀ reason, rules.records strict tight tree unit = .error reason ↔
      rules.records loose wide tree unit = .error reason) ∧
    ∀ records, rules.records loose wide tree unit = .ok records →
      ∃ kept, rules.records strict tight tree unit = .ok kept ∧ kept.Sublist records ∧
        ∃ found : List (DefinitionSite × Definition),
          found.Sublist (rules.documented tree (.ofText unit.code) loose) ∧
          records = found.map (fun f => .ofUnit unit f.2) ∧
          kept = (found.filter fun f =>
            !(strict.skipSingleLineBodies && rules.isOneLine f.1.node) &&
              tight.admits f.2.docstringTokens.length).map fun f => .ofUnit unit f.2 := by
  rw [records_eq, records_eq, documented_of_stricter stricter]
  cases rules.refusal? tree (.ofText unit.code) with
  | some reason => exact ⟨fun _ => Iff.rfl, nofun⟩
  | none =>
    refine ⟨fun _ => ⟨nofun, nofun⟩, ?_⟩
    intro records h
    obtain rfl := Except.ok.inj h
    generalize rules.documented tree (.ofText unit.code) loose = all
    -- what passes the tighter bounds passes the wider ones, so these may be tested first
    have tested : (all.filter fun f =>
        !(strict.skipSingleLineBodies && rules.isOneLine f.1.node)).filter
          (fun f => tight.admits f.2.docstringTokens.length) =
        (all.filter fun f => wide.admits f.2.docstringTokens.length).filter fun f =>
          !(strict.skipSingleLineBodies && rules.isOneLine f.1.node) &&
            tight.admits f.2.docstringTokens.length := by
      rw [List.filter_filter, List.filter_filter]
      refine List.filter_congr fun f _ => ?_
      cases admitted : tight.admits f.2.docstringTokens.length with
      | false => simp
      | true => simp [within _ admitted]
    refine ⟨_, rfl, ?_, _, List.filter_sublist, rfl, ?_⟩
    · rw [tested]
      exact List.filter_sublist.map _
    · rw [tested]

end LanguageRules

/-- A Go function that does nothing, one on a single row, and one with two words of documentation. -/
def shortsUnit : SourceUnit :=
  ⟨[], [], "go".toList, [],
    "// Pads\nfunc f() \x7b\n\x7d\n".toList ++ "// Fits\nfunc g() \x7b\x7d\n".toList ++
      "// Sorts rows\nfunc h() \x7b\n\x7d\n".toList⟩

/-- The syntax tree of `shortsUnit`. -/
def shortsTree : Node :=
  .mk ⟨"source_file", true, 0, 68, ⟨0, 0⟩, ⟨8, 0⟩, none, 0⟩ [
    .mk ⟨"comment", true, 0, 7, ⟨0, 0⟩, ⟨0, 7⟩, none, 1⟩ [],
    .mk ⟨"function_declaration", true, 8, 20, ⟨1, 0⟩, ⟨2, 1⟩, none, 2⟩ [
      .mk ⟨"identifier", true, 13, 14, ⟨1, 5⟩, ⟨1, 6⟩, some "name", 3⟩ [],
      .mk ⟨"block", true, 17, 20, ⟨1, 9⟩, ⟨2, 1⟩, some "body", 4⟩ []],
    .mk ⟨"comment", true, 21, 28, ⟨3, 0⟩, ⟨3, 7⟩, none, 5⟩ [],
    .mk ⟨"function_declaration", true, 29, 40, ⟨4, 0⟩, ⟨4, 11⟩, none, 6⟩ [
      .mk ⟨"identifier", true, 34, 35, ⟨4, 5⟩, ⟨4, 6⟩, some "name", 7⟩ [],
      .mk ⟨"block", true, 38, 40, ⟨4, 9⟩, ⟨4, 11⟩, some "body", 8⟩ []],
    .mk ⟨"comment", true, 41, 54, ⟨5, 0⟩, ⟨5, 13⟩, none, 9⟩ [],
    .mk ⟨"function_declaration", true, 55, 67, ⟨6, 0⟩, ⟨7, 1⟩, none, 10⟩ [
      .mk ⟨"identifier", true, 60, 61, ⟨6, 5⟩, ⟨6, 6⟩, some "name", 11⟩ [],
      .mk ⟨"block", true, 64, 67, ⟨6, 9⟩, ⟨7, 1⟩, some "body", 12⟩ []]]

/-- One of the three records is left where one-line functions are dropped and two words are too many. -/
theorem records_shortsUnit_of_stricter :
    ((⟨false⟩ : ExtractOptions).skipSingleLineBodies = true →
      (⟨true⟩ : ExtractOptions).skipSingleLineBodies = true) ∧
    (∀ count, TokenBounds.admits ⟨0, 2⟩ count = true → TokenBounds.admits ⟨0, 9⟩ count = true) ∧
    ∃ records kept,
      Language.go.rules.records ⟨false⟩ ⟨0, 9⟩ shortsTree shortsUnit = .ok records ∧
      Language.go.rules.records ⟨true⟩ ⟨0, 2⟩ shortsTree shortsUnit = .ok kept ∧
      kept.Sublist records ∧
      records.map (·.definition.identifier) = [['f'], ['g'], ['h']] ∧
      kept.map (·.definition.identifier) = [['f']] := by
  have stricter : (⟨false⟩ : ExtractOptions).skipSingleLineBodies = true →
      (⟨true⟩ : ExtractOptions).skipSingleLineBodies = true := nofun
  have within : ∀ count, TokenBounds.admits ⟨0, 2⟩ count = true →
      TokenBounds.admits ⟨0, 9⟩ count = true := by
    intro count h
    simp only [TokenBounds.admits, Bool.and_eq_true, decide_eq_true_eq] at h ⊢
    omega
  have loose : (Language.go.rules.records ⟨false⟩ ⟨0, 9⟩ shortsTree shortsUnit).map
      (List.map (·.definition.identifier)) = .ok [['f'], ['g'], ['h']] := by decide +kernel
  have strict : (Language.go.rules.records ⟨true⟩ ⟨0, 2⟩ shortsTree shortsUnit).map
      (List.map (·.definition.identifier)) = .ok [['f']] := by decide +kernel
  cases h : Language.go.rules.records ⟨false⟩ ⟨0, 9⟩ shortsTree shortsUnit with
  | error reason =>
    rw [h] at loose
    cases loose
  | ok records =>
    obtain ⟨kept, hk, sub, -⟩ :=
      (Language.go.rules.records_of_stricter stricter within shortsTree shortsUnit).2 records h
    rw [h] at loose
    rw [hk] at strict
    exact ⟨stricter, within, records, kept, rfl, hk, sub, Except.ok.inj loose, Except.ok.inj strict⟩

end DocHarvest
