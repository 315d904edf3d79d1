import ShiepPipeline.Error
import ShiepPipeline.Text.Json
import ShiepPipeline.Text.Str

/-!
# The configuration and the remembered login

`AppConfig::resolve` builds the configuration of one start of the program. With `remember` it fills
in a server or username that is not given from `remembered.json`, and writes the pair it works with
back to that file.

The file is written before the configuration is validated. `LoginStore.callsCorrect_iff` says which
histories of calls leave the last good login in the file all the same.
-/

open Str

namespace ShiepPipeline

/-! ## The configuration -/

/-- `AppConfig`, as release builds have it. -/
structure AppConfig where
  server : String
  username : String
  password : String
  socksBind : String
  fallbackProxy : Option String
  extraIps : List String
  details : Bool
deriving DecidableEq, Repr

def requireNonEmptyTrimmed (value error : String) : Except EcError Unit :=
  if trim value = "" then .error (.invalidConfig error) else .ok ()

def AppConfig.validate (cfg : AppConfig) : Except EcError Unit := do
  requireNonEmptyTrimmed cfg.server "server is required"
  requireNonEmptyTrimmed cfg.username "username is required"
  if cfg.password = "" then
    throw (.invalidConfig "password is required; pass --password or set SHIEP_PIPELINE_PASSWORD")
  requireNonEmptyTrimmed cfg.socksBind "bind is required"

def normalizeOptionalTrimmed (value : Option String) : Option String :=
  (value.map trim).filter (· ≠ "")

def AppConfig.new (server username password socksBind : String) (fallbackProxy : Option String)
    (extraIps : List String) (details : Bool) : Except EcError AppConfig := do
  let cfg : AppConfig :=
    { server := trim server
      username := trim username
      password
      socksBind := trim socksBind
      fallbackProxy := normalizeOptionalTrimmed fallbackProxy
      extraIps := (extraIps.map trim).filter (· ≠ "")
      details }
  cfg.validate
  return cfg

/-! ## The remembered login -/

structure RememberedConfig where
  server : String
  username : String
deriving DecidableEq, Repr

/-- How a remembered login is written to text and read back. Reading may accept more texts than
writing produces, and it reads what was written. -/
structure RememberedCodec where
  toJson : RememberedConfig → String
  fromJson : String → Option RememberedConfig
  fromJson_toJson : ∀ cfg, fromJson (toJson cfg) = some cfg

/-- The layout of `serde_json::to_string_pretty`, read back strictly. -/
def prettyCodec : RememberedCodec where
  toJson cfg := Json.prettyPair "server" "username" (cfg.server, cfg.username)
  fromJson text := (Json.readPair "server" "username" text).map fun x ↦ ⟨x.1, x.2⟩
  fromJson_toJson cfg := by rw [Json.readPair_prettyPair, Option.map_some]

/-- `load_remembered`: `none` if there is no file or it does not parse. -/
def loadRemembered (json : RememberedCodec) (file : Option String) : Option RememberedConfig :=
  file.bind json.fromJson

/-- `save_remembered`. -/
def saveRemembered (json : RememberedCodec) (cfg : RememberedConfig) : Option String :=
  some (json.toJson cfg)

@[simp] theorem loadRemembered_saveRemembered (json : RememberedCodec) (cfg : RememberedConfig) :
    loadRemembered json (saveRemembered json cfg) = some cfg :=
  json.fromJson_toJson cfg

/-- The arguments of `AppConfig::resolve`. -/
structure ResolveArgs where
  server : Option String
  username : Option String
  password : String
  socksBind : String
  fallbackProxy : Option String
  extraIps : List String
  details : Bool
  remember : Bool
deriving DecidableEq, Repr

/-- `AppConfig::new` with what the arguments give besides the server and the username. -/
def ResolveArgs.build (args : ResolveArgs) (server username : String) : Except EcError AppConfig :=
  AppConfig.new server username args.password args.socksBind args.fallbackProxy args.extraIps
    args.details

/-- `AppConfig::resolve`, with the content of the file before and after. -/
def AppConfig.resolve (json : RememberedCodec) (args : ResolveArgs) (file : Option String) :
    Except EcError AppConfig × Option String :=
  if args.remember then
    let remembered := loadRemembered json file
    match args.server.or (remembered.map (·.server)) with
    | none => (.error (.invalidConfig "server is required"), file)
    | some server =>
      match args.username.or (remembered.map (·.username)) with
      | none => (.error (.invalidConfig "username is required"), file)
      | some username => (args.build server username, saveRemembered json ⟨server, username⟩)
  else
    match args.server with
    | none => (.error (.invalidConfig "server is required"), file)
    | some server =>
      match args.username with
      | none => (.error (.invalidConfig "username is required"), file)
      | some username => (args.build server username, file)

/-! ## What is accepted -/

/-- The fields a configuration must have are there. -/
structure ResolveArgs.Accepts (args : ResolveArgs) (server username : String) : Prop where
  server : trim server ≠ ""
  username : trim username ≠ ""
  password : args.password ≠ ""
  socksBind : trim args.socksBind ≠ ""

theorem requireNonEmptyTrimmed_eq_ok_iff {value error : String} {u : Unit} :
    requireNonEmptyTrimmed value error = .ok u ↔ trim value ≠ "" := by
  rw [requireNonEmptyTrimmed]
  split_ifs with h <;> simp [h]

theorem AppConfig.validate_eq_ok_iff {cfg : AppConfig} {u : Unit} :
    cfg.validate = .ok u ↔ trim cfg.server ≠ "" ∧ trim cfg.username ≠ "" ∧ cfg.password ≠ ""
      ∧ trim cfg.socksBind ≠ "" := by
  by_cases hpassword : cfg.password = ""
  · simp [validate, bind_eq_ok_iff, hpassword, throw, throwThe, MonadExceptOf.throw]
  · simp [validate, bind_eq_ok_iff, requireNonEmptyTrimmed_eq_ok_iff, hpassword]

variable {args : ResolveArgs} {server username : String}

theorem ResolveArgs.exists_build_iff :
    (∃ cfg, args.build server username = .ok cfg) ↔ args.Accepts server username := by
  simp only [build, AppConfig.new, bind_eq_ok_iff, AppConfig.validate_eq_ok_iff, trim_trim]
  constructor
  · rintro ⟨-, -, ⟨hserver, husername, hpassword, hbind⟩, -⟩
    exact ⟨hserver, husername, hpassword, hbind⟩
  · rintro ⟨hserver, husername, hpassword, hbind⟩
    exact ⟨_, (), ⟨hserver, husername, hpassword, hbind⟩, rfl⟩

/-- What is built has the names that were asked for, without the white space around them. -/
theorem ResolveArgs.names_of_build {cfg : AppConfig} (h : args.build server username = .ok cfg) :
    cfg.server = trim server ∧ cfg.username = trim username := by
  rw [build, AppConfig.new, bind_eq_ok_iff] at h
  obtain ⟨-, -, h⟩ := h
  obtain rfl := Except.ok.inj h
  exact ⟨rfl, rfl⟩

/-! ## One call -/

variable {json : RememberedCodec} {file : Option String}

/-- The server and the username that a call with `remember` works with. -/
def chosenNames (json : RememberedCodec) (args : ResolveArgs) (file : Option String) :
    Option (String × String) :=
  let remembered := loadRemembered json file
  (args.server.or (remembered.map (·.server))).bind fun server ↦
    (args.username.or (remembered.map (·.username))).map fun username ↦ (server, username)

theorem resolve_of_not_remember (h : args.remember = false) :
    (AppConfig.resolve json args file).2 = file := by
  rw [AppConfig.resolve, if_neg (by simp [h])]
  cases args.server with
  | none => rfl
  | some server =>
    cases args.username with
    | none => rfl
    | some username => rfl

theorem resolve_of_chosenNames_eq_none (h : args.remember = true)
    (hnames : chosenNames json args file = none) :
    ∃ e, AppConfig.resolve json args file = (.error e, file) := by
  rw [AppConfig.resolve, if_pos h]
  rw [chosenNames] at hnames
  dsimp only at hnames ⊢
  cases hserver : args.server.or ((loadRemembered json file).map (·.server)) with
  | none => exact ⟨_, rfl⟩
  | some server =>
    rw [hserver, Option.bind_some, Option.map_eq_none_iff] at hnames
    rw [hnames]
    exact ⟨_, rfl⟩

theorem resolve_of_chosenNames_eq_some (h : args.remember = true)
    (hnames : chosenNames json args file = some (server, username)) :
    AppConfig.resolve json args file
      = (args.build server username, saveRemembered json ⟨server, username⟩) := by
  rw [AppConfig.resolve, if_pos h]
  rw [chosenNames] at hnames
  dsimp only at hnames ⊢
  obtain ⟨server', hserver, hrest⟩ := Option.bind_eq_some_iff.mp hnames
  obtain ⟨username', husername, heq⟩ := Option.map_eq_some_iff.mp hrest
  obtain ⟨rfl, rfl⟩ := Prod.mk.inj heq
  rw [hserver, husername]

/-! ## Histories of calls -/

/-- What the file says about the login: the pair in it, up to surrounding white space. -/
def storedPair (json : RememberedCodec) (file : Option String) : Option (String × String) :=
  (loadRemembered json file).map fun r ↦ (trim r.server, trim r.username)

/-- The file, and the login it ought to hold. -/
structure LoginStore where
  file : Option String
  lastGood : Option (String × String)

namespace LoginStore

variable (json)

/-- Before the first call the file is what it is. -/
def start (file : Option String) : LoginStore := ⟨file, storedPair json file⟩

/-- One call of `resolve`. The last good login is the server and username of the configuration that
the most recent call with `remember` returned. -/
def call (s : LoginStore) (args : ResolveArgs) : LoginStore where
  file := (AppConfig.resolve json args s.file).2
  lastGood :=
    match (AppConfig.resolve json args s.file).1 with
    | .ok cfg => if args.remember then some (cfg.server, cfg.username) else s.lastGood
    | .error _ => s.lastGood

def after (file : Option String) (calls : List ResolveArgs) : LoginStore :=
  calls.foldl (call json) (start json file)

/-- What a call ought to do to the file and to take from it. -/
structure CallCorrect (s : LoginStore) (args : ResolveArgs) : Prop where
  /-- The file holds the last good login. -/
  stored : storedPair json (s.call json args).file = (s.call json args).lastGood
  /-- A call that fails, or is not asked to remember, leaves the file as it was. -/
  unchanged : args.remember = false ∨ (∃ e, (AppConfig.resolve json args s.file).1 = .error e) →
    (s.call json args).file = s.file
  /-- A name that is given is used, and the stored one in place of one that is not. -/
  names : args.remember = true → ∀ cfg, (AppConfig.resolve json args s.file).1 = .ok cfg →
    some cfg.server = (args.server.or ((loadRemembered json s.file).map (·.server))).map trim
      ∧ some cfg.username
        = (args.username.or ((loadRemembered json s.file).map (·.username))).map trim

/-- Whatever a call is going to save belongs to a configuration that will be accepted, or is in the
file already. -/
def SavesAccepted (file : Option String) (args : ResolveArgs) : Prop :=
  args.remember = true → ∀ server username, chosenNames json args file = some (server, username) →
    args.Accepts server username ∨ file = saveRemembered json ⟨server, username⟩

variable {json}
variable {s : LoginStore}

theorem call_of_chosenNames_eq_none (h : args.remember = true)
    (hnames : chosenNames json args s.file = none) : s.call json args = s := by
  obtain ⟨e, he⟩ := resolve_of_chosenNames_eq_none h hnames
  rw [call, he]

theorem call_of_not_remember (h : args.remember = false) : s.call json args = s := by
  rw [call, resolve_of_not_remember h, h]
  cases (AppConfig.resolve json args s.file).1 with
  | error e => rfl
  | ok cfg => rfl

/-- A call that remembers an accepted login. -/
theorem call_of_accepts (h : args.remember = true)
    (hnames : chosenNames json args s.file = some (server, username))
    (haccepts : args.Accepts server username) :
    s.call json args
      = ⟨saveRemembered json ⟨server, username⟩, some (trim server, trim username)⟩ := by
  obtain ⟨cfg, hcfg⟩ := ResolveArgs.exists_build_iff.mpr haccepts
  obtain ⟨hserver, husername⟩ := ResolveArgs.names_of_build hcfg
  rw [call, resolve_of_chosenNames_eq_some h hnames, hcfg]
  dsimp only
  rw [if_pos h, hserver, husername]

/-- A call that remembers a login and then fails. -/
theorem call_of_not_accepts (h : args.remember = true)
    (hnames : chosenNames json args s.file = some (server, username))
    (haccepts : ¬args.Accepts server username) :
    s.call json args = ⟨saveRemembered json ⟨server, username⟩, s.lastGood⟩ := by
  rw [call, resolve_of_chosenNames_eq_some h hnames]
  cases hbuild : args.build server username with
  | error e => rfl
  | ok cfg => exact absurd (ResolveArgs.exists_build_iff.mp ⟨cfg, hbuild⟩) haccepts

/-- Names are chosen as they ought to be, in every call. -/
theorem names_of_resolve {cfg : AppConfig} (h : args.remember = true)
    (hcfg : (AppConfig.resolve json args file).1 = .ok cfg) :
    some cfg.server = (args.server.or ((loadRemembered json file).map (·.server))).map trim
      ∧ some cfg.username
        = (args.username.or ((loadRemembered json file).map (·.username))).map trim := by
  cases hnames : chosenNames json args file with
  | none =>
    obtain ⟨e, he⟩ := resolve_of_chosenNames_eq_none h hnames
    rw [he] at hcfg
    exact nomatch hcfg
  | some x =>
    rw [resolve_of_chosenNames_eq_some h hnames] at hcfg
    obtain ⟨hserver, husername⟩ := ResolveArgs.names_of_build hcfg
    obtain ⟨server, hs, hrest⟩ := Option.bind_eq_some_iff.mp hnames
    obtain ⟨username, hu, rfl⟩ := Option.map_eq_some_iff.mp hrest
    rw [hs, hu, hserver, husername]
    exact ⟨rfl, rfl⟩

/-- The step: a call that saves only what is accepted does what it ought to do, from a file that
holds the last good login. -/
theorem callCorrect_of_savesAccepted (hstored : storedPair json s.file = s.lastGood)
    (h : SavesAccepted json s.file args) : CallCorrect json s args := by
  have hkeep : s.call json args = s → CallCorrect json s args := fun hcall ↦
    ⟨by rw [hcall]; exact hstored, fun _ ↦ by rw [hcall], fun hr _ ↦ names_of_resolve hr⟩
  cases hremember : args.remember with
  | false => exact hkeep (call_of_not_remember hremember)
  | true =>
    cases hnames : chosenNames json args s.file with
    | none => exact hkeep (call_of_chosenNames_eq_none hremember hnames)
    | some x =>
      by_cases haccepts : args.Accepts x.1 x.2
      · have hcall := call_of_accepts hremember hnames haccepts
        refine ⟨?_, ?_, fun hr _ ↦ names_of_resolve hr⟩
        · rw [hcall, storedPair, loadRemembered_saveRemembered, Option.map_some]
        · rintro (hr | ⟨e, he⟩)
          · rw [hremember] at hr
            exact nomatch hr
          · obtain ⟨cfg, hcfg⟩ := ResolveArgs.exists_build_iff.mpr haccepts
            rw [resolve_of_chosenNames_eq_some hremember hnames, hcfg] at he
            exact nomatch he
      · have hfile := (h hremember x.1 x.2 hnames).resolve_left haccepts
        refine hkeep ?_
        rw [call_of_not_accepts hremember hnames haccepts, ← hfile]

/-- Conversely a call that leaves the file alone when it fails saves only what is accepted. -/
theorem CallCorrect.savesAccepted (h : CallCorrect json s args) :
    SavesAccepted json s.file args := by
  intro hremember server username hnames
  by_cases haccepts : args.Accepts server username
  · exact .inl haccepts
  · right
    have hcall := call_of_not_accepts hremember hnames haccepts
    have herror : ∃ e, (AppConfig.resolve json args s.file).1 = .error e := by
      rw [resolve_of_chosenNames_eq_some hremember hnames]
      cases hbuild : args.build server username with
      | error e => exact ⟨e, rfl⟩
      | ok cfg => exact absurd (ResolveArgs.exists_build_iff.mp ⟨cfg, hbuild⟩) haccepts
    rw [← h.unchanged (.inr herror), hcall]

theorem after_append (file : Option String) (done : List ResolveArgs) (args : ResolveArgs) :
    after json file (done ++ [args]) = (after json file done).call json args := by
  rw [after, List.foldl_append]
  rfl

/-- The run: as long as every call so far saved only what is accepted, the file holds the last good
login. -/
theorem storedPair_after {calls : List ResolveArgs}
    (h : ∀ done args, done ++ [args] <+: calls
      → SavesAccepted json (after json file done).file args) :
    storedPair json (after json file calls).file = (after json file calls).lastGood := by
  induction calls using List.reverseRecOn with
  | nil => rfl
  | append_singleton done args ih =>
    rw [after_append]
    refine (callCorrect_of_savesAccepted (ih fun d a hd ↦ h d a ?_) (h done args ?_)).stored
    · exact hd.trans (List.prefix_append _ _)
    · exact List.prefix_rfl

/-- **The file always holds the last good login** exactly when no call of the history saves a login
that is then not accepted, unless the file has it already. -/
theorem callsCorrect_iff (json : RememberedCodec) (file : Option String)
    (calls : List ResolveArgs) :
    (∀ done args, done ++ [args] <+: calls → CallCorrect json (after json file done) args)
      ↔ ∀ done args, done ++ [args] <+: calls
        → SavesAccepted json (after json file done).file args := by
  constructor
  · exact fun h done args hd ↦ (h done args hd).savesAccepted
  · intro h done args hd
    refine callCorrect_of_savesAccepted (storedPair_after fun d a hda ↦ h d a ?_) (h done args hd)
    exact hda.trans ((List.prefix_append _ _).trans hd)

/-- A start with an empty password fails, and the file holds its login in place of the last good
one. -/
theorem failed_call_replaces_login :
    (AppConfig.resolve prettyCodec
        ⟨some "other.example.com", some "bob", "", "127.0.0.1:1080", none, [], false, true⟩
        (saveRemembered prettyCodec ⟨"vpn.example.com", "alice"⟩)).1
      = .error (.invalidConfig
          "password is required; pass --password or set SHIEP_PIPELINE_PASSWORD")
      ∧ storedPair prettyCodec (AppConfig.resolve prettyCodec
          ⟨some "other.example.com", some "bob", "", "127.0.0.1:1080", none, [], false, true⟩
          (saveRemembered prettyCodec ⟨"vpn.example.com", "alice"⟩)).2
        = some ("other.example.com", "bob")
      ∧ storedPair prettyCodec (saveRemembered prettyCodec ⟨"vpn.example.com", "alice"⟩)
        = some ("vpn.example.com", "alice") := by
  refine ⟨by decide +kernel, ?_, ?_⟩
  · have hafter : (AppConfig.resolve prettyCodec
          ⟨some "other.example.com", some "bob", "", "127.0.0.1:1080", none, [], false, true⟩
          (saveRemembered prettyCodec ⟨"vpn.example.com", "alice"⟩)).2
        = saveRemembered prettyCodec ⟨"other.example.com", "bob"⟩ := rfl
    rw [hafter, storedPair, loadRemembered_saveRemembered]
    decide +kernel
  · rw [storedPair, loadRemembered_saveRemembered]
    decide +kernel

end LoginStore

end ShiepPipeline
