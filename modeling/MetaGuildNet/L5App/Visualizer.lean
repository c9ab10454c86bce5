import MetaGuildNet.L1Python.Value

/-!
# The visualizer: `visualize.py`

`MetaGuildNet/visualize.py` reads the output files a run left (58-158) and
draws a text report (160-336): a dashboard with the workflows' statuses, the
verification layers, the test summary and a health bar; a timeline of the
workflows; and a feature matrix. `_parse_verification` (82-108) classifies each
layer by the first of `"<Layer> Layer: UNHEALTHY"` and `"<Layer> Layer: HEALTHY"`
it finds and calls the whole verification failed when `UNHEALTHY` appears
anywhere.

The three views read the same results differently. The dashboard shows a
missing output as `⚪ N/A`; the timeline shows it as a failed execution, and
shows the diagnostics as executed and passed whatever their output says. The
matrix has no row that can show its legend's `❌ Failed`: a layer found
`UNHEALTHY` is drawn as `🟡 Pending Setup`, like one never checked.

Results:
* `parseOutputs_consistent`: in what the parser builds, a verification that
  passed has no `UNHEALTHY` layer.
* `calculateHealthPercentage_eq`, `healthBar_length`: the health is 25 points
  per healthy layer, and its bar always has `width` cells.
* `timeline_contradicts_dashboard`: for a missing verification output, or
  diagnostics that did not complete, the dashboard and the timeline disagree.
* `generateMatrix_unhealthy`: a layer found `UNHEALTHY` is drawn as pending,
  and no row is drawn as failed.

Limitations: the PNG views (353-616), `save_report` and `main`'s flags are not
modelled; `datetime.now()` is the parameter `now`. Python computes the health
and the filled cells in floating point; for the multiples of 25 the health
takes, these products are exact, and the model computes them on `Nat`.
-/
namespace MetaGuildNet.L5.Visualizer

open MetaGuildNet.L1

/-! ## What the parser builds -/

/-- The layers `_parse_verification` looks for, in its order. -/
inductive Layer where
  | network
  | cluster
  | database
  | application
  deriving DecidableEq, Repr

def Layer.name : Layer → String
  | .network => "Network"
  | .cluster => "Cluster"
  | .database => "Database"
  | .application => "Application"

/-- `['Network', 'Cluster', 'Database', 'Application']`. -/
def Layer.all : List Layer := [.network, .cluster, .database, .application]

/-- What `_parse_verification` finds for a layer. -/
inductive LayerStatus where
  | healthy
  | unhealthy
  | unknown
  deriving DecidableEq, Repr

/-- `'HEALTHY'`, `'UNHEALTHY'`, `'UNKNOWN'`. -/
def LayerStatus.text : LayerStatus → String
  | .healthy => "HEALTHY"
  | .unhealthy => "UNHEALTHY"
  | .unknown => "UNKNOWN"

/-- `'PASS'` or `'FAIL'`. -/
inductive Status where
  | pass
  | fail
  deriving DecidableEq, Repr

def Status.text : Status → String
  | .pass => "PASS"
  | .fail => "FAIL"

/-- `results['verification']`. -/
structure Verification where
  layers : Layer → LayerStatus
  passed : Nat
  failed : Nat
  warnings : Nat
  status : Status

/-- `results['testing']`: whether each suite ran, the failures and the status. -/
structure Testing where
  integration : Bool
  e2e : Bool
  failures : Nat
  status : Status
  deriving DecidableEq, Repr

/-- `self.results`: one entry per output file found. Of `diagnostics` only
`completed` is read, and of `examples` only `status`. -/
structure Results where
  verification : Option Verification
  testing : Option Testing
  diagnostics : Option Bool
  examples : Option Status

/-- `content.count(c)` for a one-character `c`. -/
def countChar (c : Char) (content : String) : Nat := content.toList.count c

/-- The status `_parse_verification` gives a layer.
mirrors MetaGuildNet/visualize.py:89-95 -/
def layerStatus (content : String) (layer : Layer) : LayerStatus :=
  if substr (layer.name ++ " Layer: UNHEALTHY") content then .unhealthy
  else if substr (layer.name ++ " Layer: HEALTHY") content then .healthy
  else .unknown

/-- `_parse_verification()` on the file's text.
mirrors MetaGuildNet/visualize.py:82-108 -/
def parseVerification (content : String) : Verification :=
  ⟨layerStatus content, countChar '✓' content, countChar '✗' content, countChar '⚠' content,
    if substr "UNHEALTHY" content then .fail else .pass⟩

/-- `_parse_testing()` on the file's text.
mirrors MetaGuildNet/visualize.py:110-123 -/
def parseTesting (content : String) : Testing :=
  ⟨substr "Integration Tests" content, substr "E2E Tests" content, countChar '✗' content,
    if substr "failed" content then .fail else .pass⟩

/-- `_parse_diagnostics()['completed']`.
mirrors MetaGuildNet/visualize.py:125-133 -/
def parseDiagnostics (content : String) : Bool := substr "completed successfully" content

/-- `_parse_examples()['status']`.
mirrors MetaGuildNet/visualize.py:135-144 -/
def parseExamples (content : String) : Status := if substr "failed" content then .fail else .pass

section
variable (pathExists : String → Bool) (read : String → Except String String) (outputDir : String)

def parseIfExists {α : Type} (file : String) (parse : String → α) : Except String (Option α) :=
  if pathExists (outputDir ++ "/" ++ file) then (read (outputDir ++ "/" ++ file)).map fun c => some (parse c)
  else .ok none

/-- `parse_outputs()`: the configuration display is read, and what it parses to
is never used.
mirrors MetaGuildNet/visualize.py:58-80 -/
def parseOutputs : Except String Results := do
  let verification ← parseIfExists pathExists read outputDir "verification_output.txt" parseVerification
  let testing ← parseIfExists pathExists read outputDir "testing_output.txt" parseTesting
  let diagnostics ← parseIfExists pathExists read outputDir "diagnostics_output.txt" parseDiagnostics
  let examples ← parseIfExists pathExists read outputDir "examples_output.txt" parseExamples
  let _ ← parseIfExists pathExists read outputDir "configuration_display.txt" fun _ => ()
  pure ⟨verification, testing, diagnostics, examples⟩

end

/-! ## The views -/

/-- `f"{s:<w}"`: `s` followed by spaces up to `w` characters. -/
def ljust (w : Nat) (s : String) : String := s ++ ⟨List.replicate (w - s.length) ' '⟩

/-- `f"{s:>w}"`: spaces up to `w` characters, then `s`. -/
def rjust (w : Nat) (s : String) : String := ⟨List.replicate (w - s.length) ' '⟩ ++ s

/-- `c * 64`. -/
def rule (c : Char) : String := ⟨List.replicate 64 c⟩

/-- `Colors.GREEN`, `Colors.YELLOW`, `Colors.RED` and `Colors.RESET` (37-47). -/
def Colors.green : String := "\x1b[92m"
def Colors.yellow : String := "\x1b[93m"
def Colors.red : String := "\x1b[91m"
def Colors.reset : String := "\x1b[0m"

/-- `_calculate_health_percentage()`: the share of the verification's layers
that are healthy, as a whole percentage.
mirrors MetaGuildNet/visualize.py:222-236 -/
def calculateHealthPercentage (r : Results) : Nat :=
  let total := match r.verification with
    | some _ => Layer.all.length
    | none => 0
  let passedChecks := match r.verification with
    | some ver => Layer.all.countP fun l => ver.layers l = .healthy
    | none => 0
  if total = 0 then 0 else passedChecks * 100 / total

/-- The cells of the health bar: `filled` full ones, then empty ones up to `width`. -/
def healthBar (percentage width : Nat) : String :=
  ⟨List.replicate (percentage * width / 100) '█' ++ List.replicate (width - percentage * width / 100) '░'⟩

/-- `_create_health_bar(percentage, width)`.
mirrors MetaGuildNet/visualize.py:238-250 -/
def createHealthBar (percentage width : Nat) : String :=
  let color := if percentage ≥ 80 then Colors.green else if percentage ≥ 50 then Colors.yellow else Colors.red
  "  [" ++ color ++ healthBar percentage width ++ Colors.reset ++ "]"

def statusIcon (status : String) : String :=
  if status = "PASS" then "✅" else if status = "FAIL" then "❌" else "⚪"

def layerIcon (status : LayerStatus) : String :=
  if status = .healthy then "🟢" else if status = .unhealthy then "🔴" else "⚪"

/-- The dashboard's workflows and their statuses; a missing output is `N/A`.
mirrors MetaGuildNet/visualize.py:172-177 -/
def dashboardWorkflows (r : Results) : List (String × String) :=
  [("Verification", (r.verification.map fun v => v.status.text).getD "N/A"),
    ("Testing", (r.testing.map fun t => t.status.text).getD "N/A"),
    ("Diagnostics", if r.diagnostics = some true then "PASS" else "N/A"),
    ("Examples", (r.examples.map Status.text).getD "N/A")]

def workflowLine (w : String × String) : String :=
  "  " ++ statusIcon w.2 ++ " " ++ ljust 20 w.1 ++ " " ++ rjust 10 w.2

def layerLine (ver : Verification) (l : Layer) : String :=
  "  " ++ layerIcon (ver.layers l) ++ " " ++ ljust 20 l.name ++ " " ++ rjust 10 (ver.layers l).text

/-- The verification block of the dashboard.
mirrors MetaGuildNet/visualize.py:186-197 -/
def verificationLines (ver : Verification) : List String :=
  ["🔍 VERIFICATION LAYER STATUS", rule '─'] ++ Layer.all.map (layerLine ver) ++
    ["", "  Checks:  ✓ " ++ ljust 3 (toString ver.passed) ++ " | ✗ " ++ ljust 3 (toString ver.failed) ++
      " | ⚠ " ++ ljust 3 (toString ver.warnings), ""]

/-- The testing block of the dashboard.
mirrors MetaGuildNet/visualize.py:199-206 -/
def testingLines (test : Testing) : List String :=
  ["🧪 TESTING SUMMARY", rule '─',
    "  Integration Tests:  " ++ (if test.integration then "RAN" else "SKIPPED"),
    "  E2E Tests:          " ++ (if test.e2e then "RAN" else "SKIPPED"),
    "  Failures:           " ++ toString test.failures, ""]

/-- The lines of `generate_dashboard()`; `now` is the `Generated:` time.
mirrors MetaGuildNet/visualize.py:160-220 -/
def dashboardLines (now : String) (r : Results) : List String :=
  ["╔════════════════════════════════════════════════════════════════╗", "║        METAGUILDNET EXECUTION DASHBOARD                       ║", "╚════════════════════════════════════════════════════════════════╝", "", "📊 WORKFLOW STATUS OVERVIEW", rule '─'] ++
    (dashboardWorkflows r).map workflowLine ++ [""] ++
    (match r.verification with
      | some ver => verificationLines ver
      | none => []) ++
    (match r.testing with
      | some test => testingLines test
      | none => []) ++
    ["💚 SYSTEM HEALTH", rule '─', createHealthBar (calculateHealthPercentage r) 50,
      "  Overall Health: " ++ toString (calculateHealthPercentage r) ++ "%", "", rule '═',
      "Generated: " ++ now, rule '═']

/-- `generate_dashboard()`. -/
def generateDashboard (now : String) (r : Results) : String := "\n".intercalate (dashboardLines now r)

/-- The timeline's workflows: an icon and a status each. Only an output whose
status is `PASS` earns `✅`, and the diagnostics always do.
mirrors MetaGuildNet/visualize.py:261-267 -/
def timelineWorkflows (r : Results) : List (String × String × String) :=
  [("Setup", "⚪", "Not executed"),
    ("Verification", if (r.verification.map fun v => v.status) = some .pass then "✅" else "❌", "Executed"),
    ("Testing", if (r.testing.map fun t => t.status) = some .pass then "✅" else "❌", "Executed"),
    ("Diagnostics", "✅", "Executed"),
    ("Examples", if r.examples = some .pass then "✅" else "❌", "Executed")]

/-- The timeline line of the `i`-th workflow after the first.
mirrors MetaGuildNet/visualize.py:270-272 -/
def timelineLine (i : Nat) (w : String × String × String) : String :=
  (if i < 4 then "       ├─▶" else "       └─▶") ++ " " ++ ljust 15 w.1 ++ " " ++ w.2.1 ++ " " ++ w.2.2

/-- The lines of `generate_timeline()`.
mirrors MetaGuildNet/visualize.py:252-275 -/
def timelineLines (r : Results) : List String :=
  ["╔════════════════════════════════════════════════════════════════╗", "║        METAGUILDNET EXECUTION TIMELINE                        ║", "╚════════════════════════════════════════════════════════════════╝", "", "  Start ─┬─▶ Setup          ⚪ Not executed"] ++
    (((timelineWorkflows r).drop 1).enumFrom 1).map (fun iw => timelineLine iw.1 iw.2) ++ [""]

/-- `generate_timeline()`. -/
def generateTimeline (r : Results) : String := "\n".intercalate (timelineLines r)

/-- Whether a layer reads `HEALTHY`: `layers.get(name, "").upper() == "HEALTHY"`. -/
def layerWorking (r : Results) (l : Layer) : Bool := (r.verification.map fun v => decide (v.layers l = .healthy)).getD false

/-- A feature row: `✅ Working` or `🟡 Pending Setup`. -/
def featureRow (feature : String) (working : Bool) : String × String × String :=
  (feature, if working then "✅" else "🟡", if working then "Working" else "Pending Setup")

/-- The features of the matrix.
mirrors MetaGuildNet/visualize.py:284-311 -/
def features (r : Results) : List (String × String × String) :=
  [featureRow "Configuration Loading" true, featureRow "Multi-Workflow Support" true,
    featureRow "Error Handling" true, featureRow "Visualizations" true, featureRow "Logging System" true,
    featureRow "Network Verification" (layerWorking r .network),
    featureRow "Cluster Verification" (layerWorking r .cluster),
    featureRow "Database Verification" (layerWorking r .database),
    featureRow "Application Verification" (layerWorking r .application),
    featureRow "Workspace Creation" (r.examples = some .pass)]

/-- The lines of `generate_matrix()`.
mirrors MetaGuildNet/visualize.py:277-324 -/
def matrixLines (r : Results) : List String :=
  ["╔════════════════════════════════════════════════════════════════╗", "║        METAGUILDNET FEATURE MATRIX                            ║", "╚════════════════════════════════════════════════════════════════╝", "", ljust 30 "Feature" ++ " " ++ ljust 10 "Status" ++ " " ++ ljust 20 "State",
    rule '─'] ++
    (features r).map (fun f => ljust 30 f.1 ++ " " ++ ljust 10 f.2.1 ++ " " ++ ljust 20 f.2.2) ++
    ["", "Legend: ✅ Working | 🟡 Pending | ❌ Failed", ""]

/-- `generate_matrix()`. -/
def generateMatrix (r : Results) : String := "\n".intercalate (matrixLines r)

/-- `generate_report()`.
mirrors MetaGuildNet/visualize.py:326-336 -/
def generateReport (now : String) (r : Results) : String :=
  "\n".intercalate [generateDashboard now r, "", generateTimeline r, "", generateMatrix r]

/-! ## What the parser builds is consistent -/

theorem substr_trans {a b c : String} (hab : substr a b = true) (hbc : substr b c = true) :
    substr a c = true := by
  simp only [substr, decide_eq_true_eq] at *
  exact hab.trans hbc

theorem substr_append_left {a b : String} (x : String) (h : substr a b = true) : substr a (x ++ b) = true := by
  simp only [substr, decide_eq_true_eq] at *
  exact h.trans (List.suffix_append x.toList b.toList).isInfix

/-- A verification the parser calls passed has no `UNHEALTHY` layer: the line
that makes a layer `UNHEALTHY` contains `UNHEALTHY`. -/
theorem parseVerification_pass {content : String} (h : (parseVerification content).status = .pass)
    (l : Layer) : (parseVerification content).layers l ≠ .unhealthy := by
  simp only [parseVerification] at h ⊢
  intro hl
  split at h
  · cases h
  · rename_i hno
    unfold layerStatus at hl
    split at hl
    · exact hno (substr_trans (substr_append_left l.name (by decide : substr "UNHEALTHY" " Layer: UNHEALTHY" = true)) ‹_›)
    · split at hl <;> cases hl

/-- The results never say that a verification passed with a layer `UNHEALTHY`. -/
def Results.Consistent (r : Results) : Prop :=
  ∀ v, r.verification = some v → v.status = .pass → ∀ l, v.layers l ≠ .unhealthy

theorem parseIfExists_ok {pathExists : String → Bool} {read : String → Except String String}
    {outputDir file : String} {α : Type} {parse : String → α} {o : Option α}
    (h : parseIfExists pathExists read outputDir file parse = .ok o) : ∀ v, o = some v → ∃ c, v = parse c := by
  intro v hv
  unfold parseIfExists at h
  split at h
  · cases hr : read (outputDir ++ "/" ++ file) with
    | error e => rw [hr] at h; cases h
    | ok c => rw [hr] at h; cases h; cases hv; exact ⟨c, rfl⟩
  · cases h; cases hv

/-- Whatever the files say, the parser builds consistent results. -/
theorem parseOutputs_consistent {pathExists : String → Bool} {read : String → Except String String}
    {outputDir : String} {r : Results} (h : parseOutputs pathExists read outputDir = .ok r) : r.Consistent := by
  intro v hv hp l
  unfold parseOutputs at h
  simp only [bind, Except.bind] at h
  split at h
  · cases h
  rename_i ov hov
  repeat (split at h; · cases h)
  cases h
  obtain ⟨c, rfl⟩ := parseIfExists_ok hov v hv
  exact parseVerification_pass hp l

/-! ## The health -/

/-- The health is 25 points for each healthy layer, and 0 without a
verification output. -/
theorem calculateHealthPercentage_eq (r : Results) :
    calculateHealthPercentage r = match r.verification with
      | some ver => 25 * Layer.all.countP fun l => ver.layers l = .healthy
      | none => 0 := by
  unfold calculateHealthPercentage
  cases r.verification with
  | none => rfl
  | some ver => simp [Layer.all]; omega

theorem calculateHealthPercentage_le (r : Results) : calculateHealthPercentage r ≤ 100 := by
  rw [calculateHealthPercentage_eq]
  cases r.verification with
  | none => exact Nat.zero_le _
  | some ver =>
    have := List.countP_le_length (fun l => decide (ver.layers l = .healthy)) (l := Layer.all)
    simp only [Layer.all, List.length_cons, List.length_nil] at this ⊢
    omega

/-- The bar has `width` cells for every percentage up to 100. -/
theorem healthBar_length {percentage : Nat} (h : percentage ≤ 100) (width : Nat) :
    (healthBar percentage width).length = width := by
  have hf : percentage * width / 100 ≤ width :=
    Nat.div_le_of_le_mul (Nat.mul_comm 100 width ▸ Nat.mul_le_mul_right width h)
  simp only [healthBar, String.length, List.length_append, List.length_replicate]
  omega

/-- The dashboard's health bar has its 50 cells whatever the results. -/
theorem dashboardBar_length (r : Results) : (healthBar (calculateHealthPercentage r) 50).length = 50 :=
  healthBar_length (calculateHealthPercentage_le r) 50

/-! ## The views disagree -/

/-- A missing verification output is `⚪ N/A` on the dashboard and a failed
execution on the timeline; diagnostics that did not complete are `⚪ N/A` on the
dashboard and a passed execution on the timeline. -/
theorem timeline_contradicts_dashboard (now : String) (r : Results) :
    (r.verification = none →
      workflowLine ("Verification", "N/A") ∈ dashboardLines now r ∧
        timelineLine 1 ("Verification", "❌", "Executed") ∈ timelineLines r) ∧
    (r.diagnostics ≠ some true →
      workflowLine ("Diagnostics", "N/A") ∈ dashboardLines now r ∧
        timelineLine 3 ("Diagnostics", "✅", "Executed") ∈ timelineLines r) := by
  constructor
  · intro hv
    simp [dashboardLines, dashboardWorkflows, timelineLines, timelineWorkflows, hv]
  · intro hd
    simp [dashboardLines, dashboardWorkflows, timelineLines, timelineWorkflows, hd]

/-- A layer found `UNHEALTHY` is drawn as pending in the matrix, and no row is
drawn as failed, though the legend lists `❌ Failed`. -/
theorem generateMatrix_unhealthy (r : Results) {v : Verification} (hv : r.verification = some v)
    {l : Layer} (hl : v.layers l = .unhealthy) :
    (l.name ++ " Verification", "🟡", "Pending Setup") ∈ features r ∧ ∀ f ∈ features r, f.2.1 ≠ "❌" := by
  constructor
  · cases l <;> simp [features, featureRow, layerWorking, hv, hl, Layer.name]
  · intro f hf
    simp only [features, featureRow, List.mem_cons, List.not_mem_nil, or_false] at hf
    rcases hf with rfl | rfl | rfl | rfl | rfl | rfl | rfl | rfl | rfl | rfl <;> split <;> decide

end MetaGuildNet.L5.Visualizer
