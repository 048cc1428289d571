import Mathlib.Data.List.Induction
import SymbolRules.Proofs.Environment
import SymbolRules.Registry

/-!
# Runs of the registry

What one request does to a registry, and what a history of requests does. An installation that builds a
rule set (`Step.Builds`) puts it in place unless there is one (`next_of_builds`), and every other request
sets or unsets a variable at most (`next_of_not_builds`). So what is in place stays (`installed_after`),
and a variable has the value that the history left it with (`lookup?_environmentAfter`).
-/

namespace SymbolRules.Registry

/-- The answer to a request. -/
def answer (r : Registry) (s : Step) : Answer :=
  (r.step s).value.1

/-- The registry after a request. -/
def next (r : Registry) (s : Step) : Registry :=
  (r.step s).value.2

/-- The registry after a history of requests. -/
def after (r : Registry) (history : List Step) : Registry :=
  history.foldl next r

theorem after_append (r : Registry) (before rest : List Step) :
    r.after (before ++ rest) = (r.after before).after rest :=
  List.foldl_append

theorem after_cons (r : Registry) (s : Step) (rest : List Step) : r.after (s :: rest) = (r.next s).after rest :=
  rfl

/-! ## One request -/

/-- Whether a request is an installation. -/
def Step.isInstallation : Step → Bool
  | .install .. | .installFromVariable _ => true
  | .setVariable .. | .unsetVariable _ | .current | .query _ => false

/-- The rule set that an installation compiles: from its own text and settings, or from the text in a
variable and the settings that hold when none are given. -/
inductive Step.Builds (env : Environment) : Step → RuleSet → Prop where
  | text (text : String) (settings : Settings) : Builds env (.install text settings) (RuleSet.build text settings).value
  | fromVariable {name text : String} (h : env.lookup? name = some (Utf8.encode text)) :
    Builds env (.installFromVariable name) (RuleSet.build text {}).value

/-- What a request does to the variables. -/
def Step.onVariables (env : Environment) : Step → Environment
  | .setVariable name value => env.set name value
  | .unsetVariable name => env.unset name
  | .install .. | .installFromVariable _ | .current | .query _ => env

theorem value_install (r : Registry) (text : String) (settings : Settings) :
    (r.install text settings).value =
      { r with installed := some (r.installed.getD (RuleSet.build text settings).value) } := by
  rcases r with ⟨env, _ | set⟩ <;> rfl

/-- An installation from a variable that holds a text is the installation of that text. -/
theorem step_installFromVariable {r : Registry} {name text : String}
    (h : r.environment.lookup? name = some (Utf8.encode text)) :
    r.step (.installFromVariable name) = r.step (.install text {}) := by
  rcases r.environment.ruleText_cases name with ⟨hl, -⟩ | ⟨value, hl, hv, -⟩ | ⟨text', hl, ht⟩
  · rw [h] at hl; cases hl
  · rw [h] at hl; exact absurd (Option.some.inj hl).symm (hv text)
  · rw [h] at hl
    obtain rfl := Utf8.encode_injective (Option.some.inj hl)
    simp only [step, installFromVariable, ht]

/-- An installation from a variable that holds no text changes nothing. -/
theorem step_installFromVariable_error {r : Registry} {name : String} {e : Error}
    (h : r.environment.ruleText name = .error e) : r.step (.installFromVariable name) = pure (.failed e, r) := by
  simp only [step, installFromVariable, h]

/-- An installation that builds a rule set succeeds, and puts it in place unless there is one. -/
theorem next_of_builds {r : Registry} {s : Step} {set : RuleSet} (h : s.Builds r.environment set) :
    r.answer s = .done ∧ r.next s = { r with installed := some (r.installed.getD set) } := by
  cases h with
  | text text settings => exact ⟨rfl, value_install r text settings⟩
  | fromVariable hl =>
    rw [answer, next, step_installFromVariable hl]
    exact ⟨rfl, value_install r _ {}⟩

/-- A request that builds no rule set does to the variables what it does to them, and no more. -/
theorem next_of_not_builds {r : Registry} {s : Step} (h : ∀ set, ¬ s.Builds r.environment set) :
    r.next s = { r with environment := s.onVariables r.environment } := by
  cases s with
  | setVariable | unsetVariable => rfl
  | install text settings => exact absurd (.text text settings) (h _)
  | installFromVariable name =>
    rcases r.environment.ruleText_cases name with ⟨-, he⟩ | ⟨-, -, -, he⟩ | ⟨text, hl, -⟩
    · rw [next, step_installFromVariable_error he]; rfl
    · rw [next, step_installFromVariable_error he]; rfl
    · exact absurd (.fromVariable hl) (h _)
  | current => rw [next, step]; cases r.current <;> rfl
  | query symbol => rw [next, step]; cases r.query symbol <;> rfl

theorem Step.Builds.onVariables_eq {env : Environment} {s : Step} {set : RuleSet} (h : s.Builds env set) :
    s.onVariables env = env := by
  cases h <;> rfl

theorem environment_next (r : Registry) (s : Step) : (r.next s).environment = s.onVariables r.environment := by
  by_cases hs : ∃ set, s.Builds r.environment set
  · obtain ⟨set, built⟩ := hs
    rw [(next_of_builds built).2, built.onVariables_eq]
  · rw [next_of_not_builds fun set built => hs ⟨set, built⟩]

/-- What is in place is there after the next request. -/
theorem installed_next {r : Registry} {set : RuleSet} (h : r.installed = some set) (s : Step) :
    (r.next s).installed = some set := by
  by_cases hs : ∃ other, s.Builds r.environment other
  · obtain ⟨other, built⟩ := hs
    rw [(next_of_builds built).2, h, Option.getD_some]
  · rw [next_of_not_builds fun other built => hs ⟨other, built⟩]
    exact h

/-- A request that fails changes nothing. -/
theorem next_of_failed {r : Registry} {s : Step} {e : Error} (h : r.answer s = .failed e) : r.next s = r := by
  have unbuilt : ∀ set, ¬ s.Builds r.environment set := by
    intro set built
    rw [(next_of_builds built).1] at h
    cases h
  have kept : s.onVariables r.environment = r.environment := by
    cases s with
    | setVariable | unsetVariable => cases h
    | install | installFromVariable | current | query => rfl
  rw [next_of_not_builds unbuilt, kept]

/-! ## A history of requests -/

/-- What is in place stays. -/
theorem installed_after {r : Registry} {set : RuleSet} (h : r.installed = some set) (history : List Step) :
    (r.after history).installed = some set := by
  induction history generalizing r with
  | nil => exact h
  | cons s rest ih =>
    rw [after_cons]
    exact ih (installed_next h s)

/-- The environment that a history of requests leaves. -/
def environmentAfter (history : List Step) : Environment :=
  history.foldl Step.onVariables .empty

theorem environmentAfter_concat (history : List Step) (s : Step) :
    environmentAfter (history ++ [s]) = s.onVariables (environmentAfter history) :=
  List.foldl_concat ..

theorem environment_after (r : Registry) (history : List Step) :
    (r.after history).environment = history.foldl Step.onVariables r.environment := by
  induction history generalizing r with
  | nil => rfl
  | cons s rest ih => rw [after_cons, ih, environment_next, List.foldl_cons]

theorem environment_after_initial (history : List Step) :
    (initial.after history).environment = environmentAfter history :=
  environment_after initial history

/-- What a request does to the value of one variable. -/
def Step.onValue (name : String) (value : Option (List UInt8)) : Step → Option (List UInt8)
  | .setVariable other new => if other = name then some new else value
  | .unsetVariable other => if other = name then none else value
  | .install .. | .installFromVariable _ | .current | .query _ => value

/-- The value that a history of requests leaves a variable with. -/
def valueAfter (name : String) (history : List Step) : Option (List UInt8) :=
  history.foldl (Step.onValue name) none

theorem valueAfter_concat (name : String) (history : List Step) (s : Step) :
    valueAfter name (history ++ [s]) = s.onValue name (valueAfter name history) :=
  List.foldl_concat ..

theorem wellNamed_onVariables {env : Environment} (h : env.WellNamed) (s : Step) : (s.onVariables env).WellNamed := by
  cases s with
  | setVariable other value => exact h.set other value
  | unsetVariable other => exact h.unset other
  | install | installFromVariable | current | query => exact h

theorem wellNamed_environmentAfter (history : List Step) : (environmentAfter history).WellNamed := by
  induction history using List.reverseRecOn with
  | nil => exact .empty
  | append_singleton history s ih =>
    rw [environmentAfter_concat]
    exact wellNamed_onVariables ih s

theorem lookup?_onVariables {env : Environment} (h : env.WellNamed) {name : String}
    (hn : Environment.isSettable name = true) (s : Step) :
    (s.onVariables env).lookup? name = s.onValue name (env.lookup? name) := by
  cases s with
  | setVariable other value => exact Environment.lookup?_set h hn other value
  | unsetVariable other => exact Environment.lookup?_unset h hn other
  | install | installFromVariable | current | query => rfl

/-- A variable has the value that the last request on it left. -/
theorem lookup?_environmentAfter {name : String} (hn : Environment.isSettable name = true) (history : List Step) :
    (environmentAfter history).lookup? name = valueAfter name history := by
  induction history using List.reverseRecOn with
  | nil => exact Environment.lookup?_empty name
  | append_singleton history s ih =>
    rw [environmentAfter_concat, lookup?_onVariables (wellNamed_environmentAfter history) hn, ih, valueAfter_concat]

end SymbolRules.Registry
