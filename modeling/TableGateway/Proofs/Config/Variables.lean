import TableGateway.Config
import TableGateway.Proofs.Text.Numbers
import TableGateway.Proofs.Traversal

/-! # Settings read from variables

What variables must be like for settings to be read from them is a list of requirements in a fixed
order (`Requirement.inOrder`).  Reading goes through them (`Config.ofLookup_eq`): it succeeds exactly
if all are met, and otherwise fails for the first that is not, of which `Requirement.Broken` says
what is wrong.

A variable that is not required may be absent and then stands for its default, but whether it may be
empty differs from one to the next: `Config.Reads` has the rule for each.  Settings written to
variables are read back from there (`Config.ofLookup_toLookup`). -/

namespace TableGateway

open Text

/-- A text that names a port: digits, perhaps behind one plus sign, of a value that a port can
have. -/
inductive PortText (text : String) (port : UInt16) : Prop
  | plain : Decimal text.toList port.toNat → PortText text port
  | signed {digits : List Char} :
      text.toList = '+' :: digits → Decimal digits port.toNat → PortText text port

/-- The ways to say that a switch is off. -/
def offTexts : List String := ["", "0", "false", "FALSE"]

/-- The ways to say that a switch is on. -/
def onTexts : List String := ["1", "true", "TRUE"]

/-! ### Texts of single variables -/

namespace Config

theorem port_of_natural?_eq_some_iff {digits : List Char} {port : UInt16} :
    (match natural? digits with
      | some n => if n < 65536 then some (UInt16.ofNat n) else none
      | none => none) = some port ↔ Decimal digits port.toNat := by
  rw [← natural?_eq_some_iff]
  cases natural? digits with
  | none => simp
  | some n =>
      by_cases h : n < 65536
      · simp only [if_pos h, Option.some.injEq]
        constructor
        · rintro rfl
          simp [Nat.mod_eq_of_lt h]
        · rintro rfl
          simp
      · have hport : ¬n = port.toNat := fun heq => h (heq ▸ port.toNat_lt)
        simp [h, hport]

theorem port?_eq_some_iff {text : String} {port : UInt16} :
    port? text = some port ↔ PortText text port := by
  have hplus : ∀ rest n, ¬Decimal ('+' :: rest) n := fun rest n h =>
    absurd (h.isDigit '+' List.mem_cons_self) (by decide)
  unfold port?
  split
  next rest htext =>
    refine port_of_natural?_eq_some_iff.trans ?_
    constructor
    · exact .signed htext
    · intro h
      cases h with
      | plain hdigits => exact absurd (htext ▸ hdigits) (hplus rest _)
      | signed htext' hdigits =>
          rw [htext] at htext'
          cases htext'
          exact hdigits
  next hnot =>
    refine port_of_natural?_eq_some_iff.trans ?_
    constructor
    · exact .plain
    · intro h
      cases h with
      | plain hdigits => exact hdigits
      | signed htext _ => exact absurd htext (hnot _)

theorem port?_repr (port : UInt16) : port? port.toNat.repr = some port := by
  rw [port?_eq_some_iff]
  exact .plain (natural?_eq_some_iff.mp (natural?_repr port.toNat))

theorem switch?_eq_none_iff {text : String} :
    switch? text = none ↔ text ∉ offTexts ++ onTexts := by
  simp only [switch?, offTexts, onTexts]
  grind

theorem switch?_eq_some_true_iff {text : String} : switch? text = some true ↔ text ∈ onTexts := by
  simp only [switch?, onTexts]
  grind

/-! ### Requirements -/

/-- What is required of variables. -/
inductive Requirement where
  | port
  | persistent
  /-- A variable that must be set, and not to the empty text. -/
  | set (key : String)
  | driver
  deriving DecidableEq, Repr

namespace Requirement

/-- The requirements, in the order in which they are looked at. -/
def inOrder : List Requirement :=
  [port, persistent, set "DB_HOST", set "DB_DATABASE", set "DB_USERNAME", driver]

variable (lookup : String → Option String)

/-- The variables are as required. -/
def Met : Requirement → Prop
  | port => ∀ text ∈ lookup "DB_PORT", ∃ n, PortText text n
  | persistent => ∀ text ∈ lookup "DB_PERSISTENT", text ∈ offTexts ++ onTexts
  | set key => ∃ text ∈ lookup key, text ≠ ""
  | driver => ∀ text ∈ lookup "DB_DRIVER", text = "mysql"

/-- What is wrong with variables that are not as required. -/
inductive Broken : Requirement → ConfigFault → Prop
  | port {text : String} :
      lookup "DB_PORT" = some text → (∀ n, ¬PortText text n) → Broken port (.badPort text)
  | persistent {text : String} :
      lookup "DB_PERSISTENT" = some text → text ∉ offTexts ++ onTexts →
      Broken persistent (.badPersistent text)
  | absent {key : String} : lookup key = none → Broken (set key) (.missing key)
  | empty {key : String} : lookup key = some "" → Broken (set key) (.missing key)
  | driver {text : String} :
      lookup "DB_DRIVER" = some text → text ≠ "mysql" → Broken driver (.unsupportedDriver text)

/-- The test of a requirement, which keeps nothing of what it reads. -/
def check : Requirement → Except ConfigFault Unit
  | port => (lookupPort lookup).map fun _ => ()
  | persistent => (lookupPersistent lookup).map fun _ => ()
  | set key => (required lookup key).map fun _ => ()
  | driver =>
    let name := (lookup "DB_DRIVER").getD mysql
    if name = mysql then .ok () else .error (.unsupportedDriver name)

variable {lookup}

variable {r : Requirement} {fault : ConfigFault}

theorem met_or_broken (lookup : String → Option String) :
    ∀ r : Requirement, r.Met lookup ∨ ∃ fault, r.Broken lookup fault
  | port => by
      by_cases h : ∀ text ∈ lookup "DB_PORT", ∃ n, PortText text n
      · exact .inl h
      · push Not at h
        obtain ⟨text, htext, hnone⟩ := h
        exact .inr ⟨_, .port htext hnone⟩
  | persistent => by
      by_cases h : ∀ text ∈ lookup "DB_PERSISTENT", text ∈ offTexts ++ onTexts
      · exact .inl h
      · push Not at h
        obtain ⟨text, htext, hnot⟩ := h
        exact .inr ⟨_, .persistent htext hnot⟩
  | set key => by
      cases h : lookup key with
      | none => exact .inr ⟨_, .absent h⟩
      | some text =>
          by_cases hempty : text = ""
          · exact .inr ⟨_, .empty (hempty ▸ h)⟩
          · exact .inl ⟨text, h, hempty⟩
  | driver => by
      by_cases h : ∀ text ∈ lookup "DB_DRIVER", text = "mysql"
      · exact .inl h
      · push Not at h
        obtain ⟨text, htext, hne⟩ := h
        exact .inr ⟨_, .driver htext hne⟩

theorem check_of_met (h : r.Met lookup) : r.check lookup = .ok () := by
  cases r with
  | port =>
      cases hlookup : lookup "DB_PORT" with
      | none => simp [check, lookupPort, hlookup, Except.map]
      | some text =>
          obtain ⟨n, hn⟩ := h text hlookup
          simp [check, lookupPort, hlookup, port?_eq_some_iff.mpr hn, Except.map]
  | persistent =>
      cases hlookup : lookup "DB_PERSISTENT" with
      | none => simp [check, lookupPersistent, hlookup, Except.map]
      | some text =>
          have hswitch : switch? text ≠ none := fun hnone =>
            switch?_eq_none_iff.mp hnone (h text hlookup)
          obtain ⟨b, hb⟩ := Option.ne_none_iff_exists'.mp hswitch
          simp [check, lookupPersistent, hlookup, hb, Except.map]
  | set key =>
      obtain ⟨text, hlookup, hne⟩ := h
      rw [Option.mem_def] at hlookup
      simp [check, required, hlookup, hne, Except.map]
  | driver =>
      cases hlookup : lookup "DB_DRIVER" with
      | none => simp [check, hlookup]
      | some text => simp [check, hlookup, h text hlookup, mysql]

theorem check_of_broken (h : r.Broken lookup fault) : r.check lookup = .error fault := by
  cases h with
  | @port text hlookup hnot =>
      have hport : port? text = none :=
        Option.eq_none_iff_forall_not_mem.mpr fun n hn => hnot n (port?_eq_some_iff.mp hn)
      simp [check, lookupPort, hlookup, hport, Except.map]
  | persistent hlookup hnot =>
      simp [check, lookupPersistent, hlookup, switch?_eq_none_iff.mpr hnot, Except.map]
  | absent hlookup | empty hlookup => simp [check, required, hlookup, Except.map]
  | driver hlookup hne => simp [check, hlookup, hne, mysql]

theorem exists_check_eq_ok_iff : (∃ u, r.check lookup = .ok u) ↔ r.Met lookup := by
  refine ⟨fun ⟨u, h⟩ => ?_, fun h => ⟨(), check_of_met h⟩⟩
  rcases met_or_broken lookup r with hmet | ⟨fault, hbroken⟩
  · exact hmet
  · rw [check_of_broken hbroken] at h
    cases h

theorem check_eq_error_iff : r.check lookup = .error fault ↔ r.Broken lookup fault := by
  refine ⟨fun h => ?_, check_of_broken⟩
  rcases met_or_broken lookup r with hmet | ⟨other, hbroken⟩
  · rw [check_of_met hmet] at h
    cases h
  · rw [check_of_broken hbroken] at h
    cases h
    exact hbroken

end Requirement

/-! ### Reading -/

variable (lookup : String → Option String)

/-- The settings that variables give where they are as required. -/
def given : Config where
  driver := (lookup "DB_DRIVER").getD mysql
  host := (lookup "DB_HOST").getD ""
  port := ((lookup "DB_PORT").bind port?).getD defaultPort
  database := (lookup "DB_DATABASE").getD ""
  username := (lookup "DB_USERNAME").getD ""
  password := (lookup "DB_PASSWORD").getD ""
  charset := ((lookup "DB_CHARSET").filter (· != "")).getD defaultCharset
  persistent := ((lookup "DB_PERSISTENT").bind switch?).getD false

theorem lookupPort_eq :
    lookupPort lookup = (Requirement.port.check lookup).map fun _ => (given lookup).port := by
  simp only [Requirement.check, lookupPort, given]
  cases lookup "DB_PORT" with
  | none => rfl
  | some text =>
      rw [Option.bind_some]
      cases h : port? text <;> simp [h, Except.map]

theorem lookupPersistent_eq : lookupPersistent lookup =
    (Requirement.persistent.check lookup).map fun _ => (given lookup).persistent := by
  simp only [Requirement.check, lookupPersistent, given]
  cases lookup "DB_PERSISTENT" with
  | none => rfl
  | some text =>
      rw [Option.bind_some]
      cases h : switch? text <;> simp [h, Except.map]

theorem required_eq (key : String) : required lookup key =
    ((Requirement.set key).check lookup).map fun _ => (lookup key).getD "" := by
  simp only [Requirement.check, required]
  cases lookup key with
  | none => rfl
  | some text => by_cases h : text = "" <;> simp [h, Except.map]

theorem validate_given : (given lookup).validate = Requirement.driver.check lookup := rfl

/-- Reading goes through the requirements in order. -/
theorem ofLookup_eq : ofLookup lookup =
    (Requirement.inOrder.mapM (Requirement.check lookup)).map fun _ => given lookup := by
  simp only [ofLookup, Requirement.inOrder, List.mapM_cons, List.mapM_nil, lookupPort_eq,
    lookupPersistent_eq, required_eq]
  cases Requirement.port.check lookup with
  | error fault => rfl
  | ok _ =>
  cases Requirement.persistent.check lookup with
  | error fault => rfl
  | ok _ =>
  cases (Requirement.set "DB_HOST").check lookup with
  | error fault => rfl
  | ok _ =>
  cases (Requirement.set "DB_DATABASE").check lookup with
  | error fault => rfl
  | ok _ =>
  cases (Requirement.set "DB_USERNAME").check lookup with
  | error fault => rfl
  | ok _ =>
  change ((given lookup).validate >>= fun _ => .ok (given lookup)) = _
  rw [validate_given]
  cases Requirement.driver.check lookup with
  | error fault => rfl
  | ok _ => rfl

variable {lookup}

theorem ofLookup_of_met (h : ∀ r ∈ Requirement.inOrder, r.Met lookup) :
    ofLookup lookup = .ok (given lookup) := by
  have hchecks : Requirement.inOrder.mapM (Requirement.check lookup) =
      .ok (Requirement.inOrder.map fun _ => ()) := by
    rw [mapM_eq_ok_iff, List.map_map]
    exact List.map_congr_left fun r hr => Requirement.check_of_met (h r hr)
  rw [ofLookup_eq, hchecks]
  rfl

theorem met_of_ofLookup {c : Config} (h : ofLookup lookup = .ok c) :
    ∀ r ∈ Requirement.inOrder, r.Met lookup := by
  intro r hr
  rw [ofLookup_eq] at h
  cases hchecks : Requirement.inOrder.mapM (Requirement.check lookup) with
  | error fault =>
      rw [hchecks] at h
      cases h
  | ok _ =>
      exact Requirement.exists_check_eq_ok_iff.mp (exists_mapM_eq_ok_iff.mp ⟨_, hchecks⟩ r hr)

theorem ofLookup_eq_error_iff {fault : ConfigFault} :
    ofLookup lookup = .error fault ↔ ∃ before r after,
      Requirement.inOrder = before ++ r :: after ∧ (∀ q ∈ before, q.Met lookup) ∧
        r.Broken lookup fault := by
  have hmap : ofLookup lookup = .error fault ↔
      Requirement.inOrder.mapM (Requirement.check lookup) = .error fault := by
    rw [ofLookup_eq]
    cases Requirement.inOrder.mapM (Requirement.check lookup) <;> simp [Except.map]
  rw [hmap, mapM_eq_error_iff]
  simp only [Requirement.check_eq_error_iff, Requirement.exists_check_eq_ok_iff]

/-! ### What is read -/

/-- A value is what a variable says or, where the variable is absent, a default. -/
inductive Stated {α : Type} (means : String → α → Prop) (default : α) : Option String → α → Prop
  | present {text : String} {value : α} : means text value → Stated means default (some text) value
  | absent : Stated means default none default

/-- What settings have to do with the variables they are read from. -/
structure Reads (lookup : String → Option String) (c : Config) : Prop where
  driver : Stated (fun text driver => driver = text) "mysql" (lookup "DB_DRIVER") c.driver
  host : lookup "DB_HOST" = some c.host
  port : Stated PortText 3306 (lookup "DB_PORT") c.port
  database : lookup "DB_DATABASE" = some c.database
  username : lookup "DB_USERNAME" = some c.username
  password : Stated (fun text password => password = text) "" (lookup "DB_PASSWORD") c.password
  /-- Here an empty text is as good as none. -/
  charset : Stated (fun text charset => charset = if text = "" then "utf8mb4" else text) "utf8mb4"
    (lookup "DB_CHARSET") c.charset
  persistent : Stated (fun text on => on = true ↔ text ∈ onTexts) false (lookup "DB_PERSISTENT")
    c.persistent

theorem lookup_of_met {key : String} (h : (Requirement.set key).Met lookup) :
    lookup key = some ((lookup key).getD "") := by
  obtain ⟨text, hlookup, -⟩ := h
  rw [Option.mem_def.mp hlookup]
  rfl

theorem stated_getD (text : Option String) (default : String) :
    Stated (fun text value => value = text) default text (text.getD default) := by
  cases text with
  | none => exact .absent
  | some text => exact .present rfl

theorem reads_given (h : ∀ r ∈ Requirement.inOrder, r.Met lookup) :
    Reads lookup (given lookup) where
  driver := stated_getD _ _
  host := lookup_of_met (h (.set "DB_HOST") (by decide))
  port := by
    have hport := h .port (by decide)
    simp only [given]
    cases hlookup : lookup "DB_PORT" with
    | none => exact .absent
    | some text =>
        obtain ⟨n, hn⟩ := hport text hlookup
        rw [Option.bind_some, port?_eq_some_iff.mpr hn]
        exact .present hn
  database := lookup_of_met (h (.set "DB_DATABASE") (by decide))
  username := lookup_of_met (h (.set "DB_USERNAME") (by decide))
  password := stated_getD _ _
  charset := by
    simp only [given]
    cases lookup "DB_CHARSET" with
    | none => exact .absent
    | some text =>
        by_cases hempty : text = ""
        · exact .present (by simp [hempty, Option.filter, defaultCharset])
        · exact .present (by simp [hempty, Option.filter])
  persistent := by
    simp only [given]
    cases lookup "DB_PERSISTENT" with
    | none => exact .absent
    | some text =>
        refine .present ?_
        rw [← switch?_eq_some_true_iff, Option.bind_some]
        cases switch? text <;> simp

/-- The variables that settings are written to. -/
def toLookup (c : Config) : String → Option String
  | "DB_DRIVER" => some c.driver
  | "DB_HOST" => some c.host
  | "DB_PORT" => some c.port.toNat.repr
  | "DB_DATABASE" => some c.database
  | "DB_USERNAME" => some c.username
  | "DB_PASSWORD" => some c.password
  | "DB_CHARSET" => some c.charset
  | "DB_PERSISTENT" => some (if c.persistent then "true" else "false")
  | _ => none

theorem ofLookup_toLookup {c : Config} (hvalid : c.validate = .ok ()) (hhost : c.host ≠ "")
    (hdatabase : c.database ≠ "") (husername : c.username ≠ "") (hcharset : c.charset ≠ "") :
    ofLookup c.toLookup = .ok c := by
  have hdriver : c.driver = mysql := by
    by_contra hne
    rw [validate, if_neg hne] at hvalid
    cases hvalid
  have hswitch : switch? (if c.persistent then "true" else "false") = some c.persistent := by
    cases c.persistent <;> decide
  have htext : (if c.persistent then "true" else "false") ∈ offTexts ++ onTexts := by
    cases c.persistent <;> decide
  have hport := port?_repr c.port
  have hmet : ∀ r ∈ Requirement.inOrder, r.Met c.toLookup := by
    simp only [Requirement.inOrder, List.forall_mem_cons]
    refine ⟨?_, ?_, ⟨c.host, rfl, hhost⟩, ⟨c.database, rfl, hdatabase⟩,
      ⟨c.username, rfl, husername⟩, ?_, List.forall_mem_nil _⟩
    · rintro text ⟨⟩
      exact ⟨c.port, port?_eq_some_iff.mp hport⟩
    · rintro text ⟨⟩
      exact htext
    · rintro text ⟨⟩
      exact hdriver
  have hkept : (some c.charset).filter (· != "") = some c.charset := by
    simp [Option.filter, hcharset]
  have hgiven : given c.toLookup = {
      c with
      port := ((some c.port.toNat.repr).bind port?).getD defaultPort
      charset := ((some c.charset).filter (· != "")).getD defaultCharset
      persistent :=
        ((some (if c.persistent then "true" else "false")).bind switch?).getD false } := rfl
  rw [ofLookup_of_met hmet, hgiven, Option.bind_some, hport, Option.bind_some, hswitch, hkept]
  rfl

/-- **Settings read from variables.**  They are read exactly if the variables are as required, and
otherwise the fault is that of the first requirement that is broken, in the order in which these are
looked at.  What is read is what the variables say, or a default for a variable that is absent; and
settings of the one driver that lack no required text are read back from the variables they are
written to. -/
theorem ofLookup_outcome (lookup : String → Option String) :
    ((∃ c, ofLookup lookup = .ok c) ↔ ∀ r ∈ Requirement.inOrder, r.Met lookup) ∧
    (∀ fault, ofLookup lookup = .error fault ↔ ∃ before r after,
      Requirement.inOrder = before ++ r :: after ∧ (∀ q ∈ before, q.Met lookup) ∧
        r.Broken lookup fault) ∧
    (∀ c, ofLookup lookup = .ok c → Reads lookup c) ∧
    ∀ c : Config, c.validate = .ok () → c.host ≠ "" → c.database ≠ "" → c.username ≠ "" →
      c.charset ≠ "" → ofLookup c.toLookup = .ok c := by
  refine ⟨⟨fun ⟨c, hok⟩ => met_of_ofLookup hok, fun h => ⟨_, ofLookup_of_met h⟩⟩,
    fun fault => ofLookup_eq_error_iff, fun c hok => ?_,
    fun c hvalid hhost hdatabase husername hcharset =>
      ofLookup_toLookup hvalid hhost hdatabase husername hcharset⟩
  have hmet := met_of_ofLookup hok
  rw [ofLookup_of_met hmet] at hok
  cases hok
  exact reads_given hmet

/-- A plus sign and zeros in front of a port, a character set that is set to nothing, and an empty
password that is kept. -/
theorem ofLookup_outcome_plus_sign :
    let lookup : String → Option String := fun key => List.lookup key [("DB_PORT", "+000080"),
      ("DB_HOST", "db"), ("DB_DATABASE", "shop"), ("DB_USERNAME", "app"), ("DB_CHARSET", "")]
    let c : Config := { host := "db", port := 80, database := "shop", username := "app" }
    let d : Config := { c with port := 65535, charset := "latin1", persistent := true }
    ofLookup lookup = .ok c ∧ Reads lookup c ∧
      d.validate = .ok () ∧ d.host ≠ "" ∧ d.database ≠ "" ∧ d.username ≠ "" ∧ d.charset ≠ "" ∧
      ofLookup d.toLookup = .ok d := by
  intro lookup c d
  have hok : ofLookup lookup = .ok c := by decide +kernel
  have hvalid : d.validate = .ok () := by decide
  have htexts : d.host ≠ "" ∧ d.database ≠ "" ∧ d.username ≠ "" ∧ d.charset ≠ "" := by decide
  obtain ⟨hhost, hdatabase, husername, hcharset⟩ := htexts
  obtain ⟨-, -, hreads, hback⟩ := ofLookup_outcome lookup
  exact ⟨hok, hreads c hok, hvalid, hhost, hdatabase, husername, hcharset,
    hback d hvalid hhost hdatabase husername hcharset⟩

/-- Of several faults the port's comes first. -/
example : ofLookup (fun key => List.lookup key [("DB_PORT", "65536"), ("DB_PERSISTENT", "on")]) =
    .error (.badPort "65536") := by decide +kernel

end Config

end TableGateway
