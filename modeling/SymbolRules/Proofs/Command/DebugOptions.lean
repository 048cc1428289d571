import SymbolRules.Proofs.Command.Verdict

/-!
# Debug options

The verbose flag and the variable with the log directives decide what a check logs. Its rules come from
elsewhere as long as the variable that they are asked from is not that one and is not answered from inside its
value (`findRules_congr`), and its candidates always do. So two checks that differ in the debug options alone
have the same result, and with it the same report, the same exit code and the same failure
(`debug_options_change_no_answer`).
-/

namespace SymbolRules.Command

/-- The checks differ in the debug options alone: in the verbose flag and in the variable with the log
directives, which may be set to anything or not at all. -/
structure SameButDebug (i : Invocation) (h : Host) (j : Invocation) (k : Host) : Prop where
  invocation : j = { i with verbose := j.verbose }
  environment : k.environment.unset LogFilter.variableName = h.environment.unset LogFilter.variableName
  fileAt : k.fileAt = h.fileAt
  stdin : k.stdin = h.stdin

variable {i j : Invocation} {h k : Host}

/-- The same rules are found where the same variables and files are. -/
theorem findRules_congr (rules : j.rules = i.rules) (files : k.fileAt = h.fileAt)
    (values : ∀ name, i.rules = some (.envVar name) → k.environment.lookup? name = h.environment.lookup? name) :
    findRules j k = findRules i h := by
  rw [findRules, rules, files, findRules]
  rcases source : i.rules with _ | _ | name | path
  · rfl
  · rfl
  · exact congrArg (Except.mapError Failure.ruleVariable) (Environment.ruleText_congr (values name source))
  · rfl

theorem gatherCandidates_congr (file : j.candidateFile = i.candidateFile) (candidates : j.candidates = i.candidates)
    (files : k.fileAt = h.fileAt) (stdin : k.stdin = h.stdin) : gatherCandidates j k = gatherCandidates i h := by
  rw [gatherCandidates, candidateLines, file, candidates, files, stdin, gatherCandidates, candidateLines]

/-- The result of a check does not depend on the debug options. -/
theorem SameButDebug.value_check (same : SameButDebug i h j k)
    (apart : ∀ name, i.rules = some (.envVar name) →
      name ≠ LogFilter.variableName ∧ ¬ (LogFilter.variableName ++ "=").toList <+: name.toList) :
    (check j k).value = (check i h).value := by
  have rules : findRules j k = findRules i h := by
    refine findRules_congr (by rw [same.invocation]) same.fileAt fun name source => ?_
    obtain ⟨differs, outside⟩ := apart name source
    exact Environment.lookup?_of_unset_eq same.environment (by decide) differs outside
  have candidates : gatherCandidates j k = gatherCandidates i h :=
    gatherCandidates_congr (by rw [same.invocation]) (by rw [same.invocation]) same.fileAt same.stdin
  rw [Command.value_check, rules, candidates, ← Command.value_check]

/-- **Debug options change no answer.** Two checks that differ in the verbose flag and in the log directives
alone print the same on standard output and end with the same exit code, and if one fails, the other fails alike and
the same line ends standard error; so long as the rules are not asked from the variable of the directives, by
its name or by one that begins with it and an equals sign. -/
theorem debug_options_change_no_answer (same : SameButDebug i h j k)
    (apart : ∀ name, i.rules = some (.envVar name) →
      name ≠ LogFilter.variableName ∧ ¬ (LogFilter.variableName ++ "=").toList <+: name.toList) :
    (perform (.check j) k).stdout = (perform (.check i) h).stdout ∧
    (perform (.check j) k).exit = (perform (.check i) h).exit ∧
    ∃ line, (perform (.check i) h).stderr = log i h ++ line ∧ (perform (.check j) k).stderr = log j k ++ line ∧
      (∀ outcomes, (check i h).value = .ok outcomes → line = "") ∧
      ∀ failure, (check i h).value = .error failure → line = failure.line := by
  have value := same.value_check apart
  have json : j.json = i.json := by rw [same.invocation]
  refine ⟨?_, ?_, failureLine (check i h).value, stderr_perform i h, ?_, ?_, ?_⟩
  · rw [stdout_perform, stdout_perform, value, json]
  · rw [exit_perform, exit_perform, value]
  · rw [stderr_perform, value]
  · intro outcomes result
    rw [result]
    rfl
  · intro failure result
    rw [result]
    rfl

/-- A check of one candidate, with rules from a variable. -/
def asking (name : String) : Invocation where
  rules := some (.envVar name)
  candidateFile := none
  json := false
  verbose := false
  candidates := ["x"]

/-- Where nothing but variables is given. -/
def variablesAlone (bindings : List (String × List UInt8)) : Host where
  environment := .ofList bindings
  fileAt _ := .error .notFound
  stdin := ⟨[], none⟩

/-- Rules from inside the value of another variable, whose name begins with that of the variable of the
directives; a verbose check with directives, and a check without either. -/
theorem debug_options_change_no_answer_nested :
    SameButDebug (asking "RUST_LOGS=a") (variablesAlone [("RUST_LOGS", Utf8.encode "a=x")])
      { asking "RUST_LOGS=a" with verbose := true }
      (variablesAlone [("RUST_LOG", Utf8.encode "a=off"), ("RUST_LOGS", Utf8.encode "a=x")]) ∧
    (perform (.check { asking "RUST_LOGS=a" with verbose := true })
      (variablesAlone [("RUST_LOG", Utf8.encode "a=off"), ("RUST_LOGS", Utf8.encode "a=x")])).stdout = "MATCH\tx\n" := by
  have same : SameButDebug (asking "RUST_LOGS=a") (variablesAlone [("RUST_LOGS", Utf8.encode "a=x")])
      { asking "RUST_LOGS=a" with verbose := true }
      (variablesAlone [("RUST_LOG", Utf8.encode "a=off"), ("RUST_LOGS", Utf8.encode "a=x")]) :=
    ⟨rfl, by decide, rfl, rfl⟩
  refine ⟨same, ?_⟩
  rw [(debug_options_change_no_answer same ?_).1]
  · decide
  · rintro name ⟨⟩
    exact ⟨by decide, by decide⟩

/-- A name that begins with that of the variable of the directives and an equals sign is answered from inside
its value, so setting the directives can provide the rules. -/
theorem directives_as_rules :
    SameButDebug (asking "RUST_LOG=a") (variablesAlone []) (asking "RUST_LOG=a")
      (variablesAlone [("RUST_LOG", Utf8.encode "a=x")]) ∧
    (∀ name, (asking "RUST_LOG=a").rules = some (.envVar name) → name ≠ LogFilter.variableName) ∧
    perform (.check (asking "RUST_LOG=a")) (variablesAlone []) =
      ⟨2, "", "错误：未找到匹配规则配置：环境变量RUST_LOG=a未设置\n"⟩ ∧
    perform (.check (asking "RUST_LOG=a")) (variablesAlone [("RUST_LOG", Utf8.encode "a=x")]) =
      ⟨0, "MATCH\tx\n", ""⟩ := by
  refine ⟨⟨rfl, by decide, rfl, rfl⟩, ?_, by decide, by decide⟩
  rintro name ⟨⟩
  decide

end SymbolRules.Command
