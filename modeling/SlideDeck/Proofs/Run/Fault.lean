import SlideDeck.Proofs.Run.Derivation

/-!
# Why statements fail

A statement can fail only with a few errors, and those that quote a name quote one that the
statement writes. The environment decides whether it fails, and with which of them.

Results:
* `Target.fault_of_set`: why an attribute cannot be set.
* `Statement.faults_of_effect`: what a statement can fail with.
-/

namespace SlideDeck

theorem map_eq_error_iff {ε α β : Type} {x : Except ε α} {f : α → β} {e : ε} :
    x.map f = .error e ↔ x = .error e := by
  cases x <;> simp [Except.map]

theorem bind_eq_error_iff {ε α β : Type} {x : Except ε α} {f : α → Except ε β} {e : ε} :
    x.bind f = .error e ↔ x = .error e ∨ ∃ a, x = .ok a ∧ f a = .error e := by
  cases x <;> simp [Except.bind]

/-! ## Why an attribute cannot be set -/

/-- The target does not have the attribute, or the constant is nothing that the attribute can be. -/
inductive SettingFault : Constant → CompileError → Prop
  | misplaced {c : Constant} (a : Attribute) : SettingFault c (.misplacedAttribute a)
  | color {c : Constant} (a : Attribute) (got : ConstantKind) :
      SettingFault c (.expectedColor a got)
  | colorName (name : String) : SettingFault (.string name) (.unknownColor name)
  | justification {c : Constant} : SettingFault c .invalidJustification
  | font {c : Constant} (got : ConstantKind) : SettingFault c (.expectedFontName got)
  | fontSize {c : Constant} (got : ConstantKind) : SettingFault c (.expectedFontSize got)

namespace Constant

variable {a : Attribute} {c : Constant} {e : CompileError}

theorem fault_of_toColor (h : c.toColor a = .error e) : SettingFault c e := by
  unfold toColor at h
  repeat' split at h
  all_goals cases h
  · exact .colorName _
  · exact .color _ _

theorem fault_of_toJustification (h : c.toJustification = .error e) : SettingFault c e := by
  unfold toJustification at h
  repeat' split at h
  all_goals cases h
  all_goals exact .justification

theorem fault_of_toFont (h : c.toFont = .error e) : SettingFault c e := by
  unfold toFont at h
  split at h <;> cases h
  exact .font _

theorem fault_of_toFontSize (h : c.toFontSize = .error e) : SettingFault c e := by
  unfold toFontSize at h
  split at h <;> cases h
  exact .fontSize _

end Constant

theorem Target.fault_of_set {a : Attribute} {c : Constant} {t : Target} {e : CompileError}
    (h : t.set a c = .error e) : SettingFault c e := by
  unfold set at h
  split at h
  · exact Constant.fault_of_toColor (map_eq_error_iff.1 h)
  · exact Constant.fault_of_toColor (map_eq_error_iff.1 h)
  · exact Constant.fault_of_toJustification (map_eq_error_iff.1 h)
  · exact Constant.fault_of_toFont (map_eq_error_iff.1 h)
  · exact Constant.fault_of_toFontSize (map_eq_error_iff.1 h)
  · cases h
    exact .misplaced _

/-! ## Why a statement fails -/

/-- What a statement can fail with where at most `limit` replays may be nested. -/
inductive Statement.Faults (limit : Nat) : Statement → CompileError → Prop
  | text {t : Token} {content : String} :
      Faults limit (.command t (.text content)) .textOutsideBlock
  | undefinedMacro {t : Token} {name : String} :
      Faults limit (.command t (.call name)) (.undefinedMacro name)
  | refused {t : Token} {name : String} :
      Faults limit (.command t (.call name)) (.macroDepthExceeded limit)
  | reference {s : Statement} {name : String} : s.value? = some (.reference name) →
      Faults limit s (.uninitializedReference name)
  | variableRedeclared {t : Token} {name : String} {isMutable : Bool} {value : Value} :
      Faults limit (.command t (.declare name isMutable value)) (.variableRedeclared name)
  | undeclared {t : Token} {name : String} {value : Value} :
      Faults limit (.command t (.assign name value)) (.undeclaredAssignment name)
  | unchangeable {t : Token} {name : String} {value : Value} {line : Nat} :
      Faults limit (.command t (.assign name value)) (.immutableAssignment name line)
  | unknownAttribute {t : Token} {name : String} {value : Value} :
      Faults limit (.command t (.setAttribute name value)) (.unknownAttribute name)
  | setting {t : Token} {name : String} {value : Value} {c : Constant} {e : CompileError} :
      SettingFault c e → Faults limit (.command t (.setAttribute name value)) e
  | slideOutside {t : Token} {name : String} {parent : Option String} {body : List Statement} :
      Faults limit (.compound t (.slide name parent) body) .slideOutsideFile
  | slideParent {t : Token} {name parent : String} {body : List Statement} :
      Faults limit (.compound t (.slide name (some parent)) body) (.undefinedParentSlide parent)
  | blockOutside {t : Token} {name : String} {parent : Option String} {body : List Statement} :
      Faults limit (.compound t (.block name parent) body) .blockOutsideSlide
  | blockParent {t : Token} {name parent : String} {body : List Statement} :
      Faults limit (.compound t (.block name (some parent)) body) (.undefinedParentBlock parent)
  | macroRedeclared {t : Token} {name : String} {body : List Statement} :
      Faults limit (.compound t (.macroDef name) body) (.macroRedeclared name)

namespace Environment

variable {env : Environment} {e : CompileError}

theorem error_of_resolve {value : Value} (h : env.resolve value = .error e) :
    ∃ name, value = .reference name ∧ e = .uninitializedReference name := by
  unfold resolve at h
  repeat' split at h
  all_goals cases h
  exact ⟨_, rfl, rfl⟩

theorem error_of_assign {name : String} {c : Constant} (h : env.assign name c = .error e) :
    e = .undeclaredAssignment name ∨ ∃ line, e = .immutableAssignment name line := by
  unfold assign at h
  repeat' split at h
  all_goals cases h
  · exact .inl rfl
  · exact .inr ⟨_, rfl⟩

theorem error_of_startSlide {parent : Option String} (h : env.startSlide parent = .error e) :
    e = .slideOutsideFile ∨ ∃ name, parent = some name ∧ e = .undefinedParentSlide name := by
  unfold startSlide at h
  repeat' split at h
  all_goals cases h
  · exact .inl rfl
  · exact .inr ⟨_, rfl, rfl⟩

theorem error_of_startBlock {parent : Option String} (h : env.startBlock parent = .error e) :
    e = .blockOutsideSlide ∨ ∃ name, parent = some name ∧ e = .undefinedParentBlock name := by
  unfold startBlock at h
  repeat' split at h
  all_goals cases h
  · exact .inl rfl
  · exact .inr ⟨_, rfl, rfl⟩

end Environment

theorem Command.faults_of_effect {limit room : Nat} {t : Token} {env : Environment} {c : Command}
    {e : CompileError} (h : c.effect limit room t env = .error e) :
    Statement.Faults limit (.command t c) e := by
  cases c with
  | text content =>
    have hset := map_eq_error_iff.1 (map_eq_error_iff.1 h)
    simp only [Scope.setText] at hset
    split at hset <;> cases hset
    exact .text
  | call name =>
    rcases bind_eq_error_iff.1 h with hbody | ⟨body, -, hroom⟩
    · unfold Environment.macroBody at hbody
      split at hbody <;> cases hbody
      exact .undefinedMacro
    · split at hroom <;> cases hroom
      exact .refused
  | declare name isMutable value =>
    rcases bind_eq_error_iff.1 h with hvalue | ⟨c, -, hdeclare⟩
    · obtain ⟨name, rfl, rfl⟩ := Environment.error_of_resolve hvalue
      exact .reference rfl
    · have hscope := map_eq_error_iff.1 (map_eq_error_iff.1 hdeclare)
      simp only [Scope.declareVariable] at hscope
      split at hscope <;> cases hscope
      exact .variableRedeclared
  | assign name value =>
    rcases bind_eq_error_iff.1 h with hvalue | ⟨c, -, hassign⟩
    · obtain ⟨name, rfl, rfl⟩ := Environment.error_of_resolve hvalue
      exact .reference rfl
    · obtain rfl | ⟨line, rfl⟩ := Environment.error_of_assign (map_eq_error_iff.1 hassign)
      · exact .undeclared
      · exact .unchangeable
  | setAttribute name value =>
    rcases bind_eq_error_iff.1 h with hfind | ⟨a, -, hset⟩
    · unfold Attribute.find at hfind
      split at hfind <;> cases hfind
      exact .unknownAttribute
    · rcases bind_eq_error_iff.1 hset with hvalue | ⟨c, -, hset⟩
      · obtain ⟨name, rfl, rfl⟩ := Environment.error_of_resolve hvalue
        exact .reference rfl
      · have htarget := map_eq_error_iff.1 (map_eq_error_iff.1 (map_eq_error_iff.1 hset))
        exact .setting (Target.fault_of_set htarget)

/-- What a statement can fail with. -/
theorem Statement.faults_of_effect {limit room : Nat} {env : Environment} {s : Statement}
    {e : CompileError} (h : s.effect limit room env = .error e) : s.Faults limit e := by
  cases s with
  | command t c => exact Command.faults_of_effect h
  | compound t head body =>
    cases head with
    | slide name parent =>
      obtain rfl | ⟨_, rfl, rfl⟩ := Environment.error_of_startSlide (map_eq_error_iff.1 h)
      · exact .slideOutside
      · exact .slideParent
    | block name parent =>
      obtain rfl | ⟨_, rfl, rfl⟩ := Environment.error_of_startBlock (map_eq_error_iff.1 h)
      · exact .blockOutside
      · exact .blockParent
    | macroDef name =>
      have hscope := map_eq_error_iff.1 (map_eq_error_iff.1 h)
      simp only [Scope.declareMacro] at hscope
      split at hscope <;> cases hscope
      exact .macroRedeclared

end SlideDeck
