import ShiepPipeline.Concurrency.Alike
import ShiepPipeline.Login
import ShiepPipeline.Text.Find
import ShiepPipeline.Text.Form

/-!
# The login

`login` asks for a page with a session id and an RSA key, encrypts the password and posts a form.
The HTTP client and the encryption are calls. What it takes from the page is the text between the
first opening tag and the closing tag behind it.

`login_eq_ok_iff` says which runs are accepted, `login_posts` what every request with the form is
and how a server reads it, and `login_hides_password` that the password goes into the encryption and
nowhere else.
-/

open Program Fallible Str

namespace ShiepPipeline

/-! ## Pages -/

/-- `TAG_RESULT_SUCCESS`. -/
def tagResultSuccess : String := "<Result>1</Result>"

def nextSmsMarkers : List String :=
  ["<NextService>auth/sms</NextService>", "<NextAuth>2</NextAuth>"]

def nextTotpMarkers : List String :=
  ["<NextService>auth/token</NextService>", "<NextServiceSubType>totp</NextServiceSubType>"]

def extractTag (body tag : String) : Option String :=
  match splitOnceStr body ("<" ++ tag ++ ">") with
  | none => none
  | some (_, rest) => (splitOnceStr rest ("</" ++ tag ++ ">")).map Prod.fst

def requireTag (body tag stage : String) : Except EcError String :=
  match extractTag body tag with
  | some value => .ok value
  | none => .error (.runtime ("missing <" ++ tag ++ "> in " ++ stage ++ " response"))

def containsAny (haystack : String) (needles : List String) : Bool :=
  needles.any fun needle ↦ containsStr haystack needle

def unsupported2faReason (body : String) : Option String :=
  if containsAny body nextSmsMarkers then some "sms 2fa is out of current minimal scope"
  else if containsAny body nextTotpMarkers then some "totp 2fa is out of current minimal scope"
  else none

/-! ## The calls -/

inductive LoginOp
  /-- `build_http_client`. -/
  | buildClient
  /-- `client.get(url).send()` and `error_for_status`. -/
  | get (url : String)
  /-- `client.post(url)` with these headers and body, `send()` and `error_for_status`. -/
  | post (url cookie contentType body : String)
  /-- `text()` of the response. -/
  | text
  /-- `RsaPublicKey::new`. -/
  | rsaPublicKey (modulus exponent : ℕ)
  /-- `public_key.encrypt`, with padding that is random. -/
  | encrypt (message : List UInt8)
deriving DecidableEq

abbrev LoginAns : LoginOp → Type
  | .text => Except String String
  | .encrypt _ => Except String (List UInt8)
  | _ => Except String Unit

/-- What the login uses of its libraries: `BigUint::parse_bytes` to the base 16, `hex::encode` and
`urlencoding::encode`. -/
structure LoginLib where
  parseHex : String → Option ℕ
  hexEncode : List UInt8 → String
  encode : String → String

def parseModulus (lib : LoginLib) (rsaKeyHex : String) : Except EcError ℕ :=
  match lib.parseHex rsaKeyHex with
  | some modulus => .ok modulus
  | none => .error (.runtime "invalid RSA modulus")

def encryptPasswordHex (lib : LoginLib) (password rsaKeyHex rsaExp : String) :
    Fallible EcError LoginOp LoginAns String := do
  let modulus ← attempt (pure (parseModulus lib rsaKeyHex)) id
  let exponent ← attempt (pure (parseU32 rsaExp)) fun e ↦ .runtime ("invalid RSA exponent: " ++ e)
  attempt (perform (LoginOp.rsaPublicKey modulus exponent)) fun e ↦
    .runtime ("invalid RSA public key: " ++ e)
  let encrypted ← attempt (perform (LoginOp.encrypt (Utf8.asBytes password))) fun e ↦
    .runtime ("RSA encrypt failed: " ++ e)
  return lib.hexEncode encrypted

def passwordInput (password csrf : String) : String :=
  if csrf = "" then password else password ++ "_" ++ csrf

def loginPswBody (encode : String → String) (csrf username encryptedPasswordHex : String) :
    String :=
  "svpn_rand_code=&mitm=&svpn_req_randcode=" ++ encode csrf ++ "&svpn_name=" ++ encode username
    ++ "&svpn_password=" ++ encode encryptedPasswordHex

/-- What the second page decides. -/
def acceptReply (twfId loginPswBody : String) : Except EcError String :=
  match unsupported2faReason loginPswBody with
  | some reason => .error (.unsupported reason)
  | none =>
    if containsStr loginPswBody tagResultSuccess then
      .ok ((extractTag loginPswBody "TwfID").getD twfId)
    else .error (.runtime "login failed: missing success result marker")

def login (lib : LoginLib) (config : AppConfig) : Fallible EcError LoginOp LoginAns String := do
  let baseUrl := normalizeBaseUrl config.server
  attempt (perform LoginOp.buildClient) fun e ↦ .runtime ("http client build failed: " ++ e)
  attempt (perform (LoginOp.get (loginAuthUrl baseUrl))) fun e ↦
    .runtime ("login_auth request failed: " ++ e)
  let loginAuthBody ← attempt (perform LoginOp.text) fun e ↦
    .runtime ("login_auth body read failed: " ++ e)
  let twfId ← attempt (pure (requireTag loginAuthBody "TwfID" "login_auth")) id
  let rsaKey ← attempt (pure (requireTag loginAuthBody "RSA_ENCRYPT_KEY" "login_auth")) id
  let rsaExp := (extractTag loginAuthBody "RSA_ENCRYPT_EXP").getD "65537"
  let csrf := (extractTag loginAuthBody "CSRF_RAND_CODE").getD ""
  let encryptedPasswordHex ←
    encryptPasswordHex lib (passwordInput config.password csrf) rsaKey rsaExp
  attempt (perform (LoginOp.post (loginPswUrl baseUrl) ("TWFID=" ++ twfId)
    "application/x-www-form-urlencoded"
    (loginPswBody lib.encode csrf config.username encryptedPasswordHex))) fun e ↦
      .runtime ("login_psw request failed: " ++ e)
  let loginPswBody ← attempt (perform LoginOp.text) fun e ↦
    .runtime ("login_psw body read failed: " ++ e)
  attempt (pure (acceptReply twfId loginPswBody)) id

/-! ## Accepted logins -/

/-- The text between the first opening tag and the first closing tag behind it. -/
def IsTagValue (body tag value : String) : Prop :=
  ∃ before rest after, FirstAt body ("<" ++ tag ++ ">") before rest
    ∧ FirstAt rest ("</" ++ tag ++ ">") value after

theorem extractTag_eq_some_iff {body tag value : String} :
    extractTag body tag = some value ↔ IsTagValue body tag value := by
  rw [extractTag]
  constructor
  · intro h
    split at h
    · cases h
    next before rest hopen =>
      obtain ⟨⟨value', after⟩, hclose, rfl⟩ := Option.map_eq_some_iff.mp h
      exact ⟨before, rest, after, splitOnceStr_eq_some_iff.mp hopen,
        splitOnceStr_eq_some_iff.mp hclose⟩
  · rintro ⟨before, rest, after, hopen, hclose⟩
    rw [splitOnceStr_eq_some_iff.mpr hopen]
    dsimp only
    rw [splitOnceStr_eq_some_iff.mpr hclose]
    rfl

theorem requireTag_eq_ok_iff {body tag stage value : String} :
    requireTag body tag stage = .ok value ↔ IsTagValue body tag value := by
  rw [← extractTag_eq_some_iff, requireTag]
  split
  next heq => rw [heq, Except.ok.injEq, Option.some.injEq]
  next heq => exact iff_of_false nofun fun h ↦ nomatch heq.symm.trans h

/-- The page of a login that has succeeded and is at its end. -/
structure IsSuccess (page : String) : Prop where
  success : ∃ a b, page = a ++ tagResultSuccess ++ b
  noSecondFactor : ∀ marker ∈ nextSmsMarkers ++ nextTotpMarkers, ∀ a b, page ≠ a ++ marker ++ b

theorem containsAny_eq_false_iff {haystack : String} {needles : List String} :
    containsAny haystack needles = false
      ↔ ∀ needle ∈ needles, ∀ a b, haystack ≠ a ++ needle ++ b := by
  rw [containsAny, List.any_eq_false]
  refine forall₂_congr fun needle _ ↦ ?_
  rw [containsStr_iff]
  exact ⟨fun h a b heq ↦ h ⟨a, b, heq⟩, fun h ⟨a, b, heq⟩ ↦ h a b heq⟩

theorem unsupported2faReason_eq_none_iff {page : String} : unsupported2faReason page = none
    ↔ ∀ marker ∈ nextSmsMarkers ++ nextTotpMarkers, ∀ a b, page ≠ a ++ marker ++ b := by
  rw [List.forall_mem_append, ← containsAny_eq_false_iff, ← containsAny_eq_false_iff,
    unsupported2faReason]
  split_ifs with hsms htotp
  · exact iff_of_false nofun fun h ↦ Bool.noConfusion (hsms.symm.trans h.1)
  · exact iff_of_false nofun fun h ↦ Bool.noConfusion (htotp.symm.trans h.2)
  · exact iff_of_true rfl ⟨Bool.eq_false_iff.mpr hsms, Bool.eq_false_iff.mpr htotp⟩

theorem acceptReply_eq_ok_iff {twfId page id : String} :
    acceptReply twfId page = .ok id
      ↔ IsSuccess page ∧ id = (extractTag page "TwfID").getD twfId := by
  rw [acceptReply]
  constructor
  · intro h
    split at h
    · cases h
    next hnone =>
      split_ifs at h with hsuccess
      exact ⟨⟨containsStr_iff.mp hsuccess, unsupported2faReason_eq_none_iff.mp hnone⟩,
        (Except.ok.inj h).symm⟩
  · rintro ⟨⟨hsuccess, hnone⟩, rfl⟩
    rw [unsupported2faReason_eq_none_iff.mpr hnone]
    exact if_pos (containsStr_iff.mpr hsuccess)

abbrev LoginTrace := List (Exchange LoginOp LoginAns)

section Runs

variable {lib : LoginLib} {config : AppConfig} {t : LoginTrace}

theorem runs_encryptPasswordHex_ok {password rsaKeyHex rsaExp hex : String} :
    Runs (encryptPasswordHex lib password rsaKeyHex rsaExp).run t (.ok hex)
      ↔ ∃ modulus exponent encrypted, lib.parseHex rsaKeyHex = some modulus
        ∧ parseU32 rsaExp = .ok exponent ∧ hex = lib.hexEncode encrypted
        ∧ t = [⟨.rsaPublicKey modulus exponent, .ok ()⟩,
          ⟨.encrypt (Utf8.asBytes password), .ok encrypted⟩] := by
  have hmodulus : ∀ modulus, parseModulus lib rsaKeyHex = .ok modulus
      ↔ lib.parseHex rsaKeyHex = some modulus := by
    intro modulus
    rw [parseModulus]
    split
    next heq => rw [heq, Except.ok.injEq, Option.some.injEq]
    next heq => exact iff_of_false nofun fun h ↦ nomatch heq.symm.trans h
  rw [encryptPasswordHex, runs_check_bind_ok_iff]
  constructor
  · rintro ⟨modulus, hmod, hrest⟩
    obtain ⟨exponent, hexp, hrest'⟩ := runs_check_bind_ok_iff.mp hrest
    obtain ⟨t₁, u, t₂, hkey, hencrypting, rfl⟩ := runs_attempt_bind_ok_iff.mp hrest'
    obtain ⟨t₃, encrypted, t₄, hencrypt, hend, rfl⟩ := runs_attempt_bind_ok_iff.mp hencrypting
    obtain ⟨rfl, hhex⟩ := Fallible.runs_pure_iff.mp hend
    obtain rfl := runs_perform_iff.mp hkey
    obtain rfl := runs_perform_iff.mp hencrypt
    exact ⟨modulus, exponent, encrypted, (hmodulus _).mp hmod, hexp, Except.ok.inj hhex, rfl⟩
  · rintro ⟨modulus, exponent, encrypted, hmod, hexp, rfl, rfl⟩
    refine ⟨modulus, (hmodulus _).mpr hmod, runs_check_bind_ok_iff.mpr ⟨exponent, hexp, ?_⟩⟩
    refine runs_attempt_bind_ok_iff.mpr ⟨_, (), _, runs_perform_iff.mpr rfl, ?_, rfl⟩
    refine runs_attempt_bind_ok_iff.mpr ⟨_, encrypted, [], runs_perform_iff.mpr rfl, ?_, rfl⟩
    exact Fallible.runs_pure_iff.mpr ⟨rfl, rfl⟩

/-- The calls of a login that is accepted. -/
def acceptedLogin (lib : LoginLib) (config : AppConfig) (authPage pswPage twfId : String)
    (modulus exponent : ℕ) (encrypted : List UInt8) : LoginTrace :=
  [⟨.buildClient, .ok ()⟩, ⟨.get (loginAuthUrl (normalizeBaseUrl config.server)), .ok ()⟩,
    ⟨.text, .ok authPage⟩, ⟨.rsaPublicKey modulus exponent, .ok ()⟩,
    ⟨.encrypt (Utf8.asBytes (passwordInput config.password
      ((extractTag authPage "CSRF_RAND_CODE").getD ""))), .ok encrypted⟩,
    ⟨.post (loginPswUrl (normalizeBaseUrl config.server)) ("TWFID=" ++ twfId)
      "application/x-www-form-urlencoded"
      (loginPswBody lib.encode ((extractTag authPage "CSRF_RAND_CODE").getD "")
        config.username (lib.hexEncode encrypted)), .ok ()⟩,
    ⟨.text, .ok pswPage⟩]

theorem runs_acceptedLogin {authPage pswPage twfId key : String} {modulus exponent : ℕ}
    (encrypted : List UInt8) (htwf : IsTagValue authPage "TwfID" twfId)
    (hkey : IsTagValue authPage "RSA_ENCRYPT_KEY" key) (hmod : lib.parseHex key = some modulus)
    (hexp : parseU32 ((extractTag authPage "RSA_ENCRYPT_EXP").getD "65537") = .ok exponent)
    (hsuccess : IsSuccess pswPage) :
    Runs (login lib config).run
      (acceptedLogin lib config authPage pswPage twfId modulus exponent encrypted)
      (.ok ((extractTag pswPage "TwfID").getD twfId)) := by
  rw [login, runs_attempt_bind_ok_iff]
  refine ⟨_, (), _, runs_perform_iff.mpr rfl, ?_, rfl⟩
  refine runs_attempt_bind_ok_iff.mpr ⟨_, (), _, runs_perform_iff.mpr rfl, ?_, rfl⟩
  refine runs_attempt_bind_ok_iff.mpr ⟨_, authPage, _, runs_perform_iff.mpr rfl, ?_, rfl⟩
  refine runs_check_bind_ok_iff.mpr ⟨twfId, requireTag_eq_ok_iff.mpr htwf, ?_⟩
  refine runs_check_bind_ok_iff.mpr ⟨key, requireTag_eq_ok_iff.mpr hkey, ?_⟩
  refine Fallible.runs_bind_iff.mpr (.inr ⟨_, _, _, runs_encryptPasswordHex_ok.mpr
    ⟨modulus, exponent, encrypted, hmod, hexp, rfl, rfl⟩, ?_, rfl⟩)
  refine runs_attempt_bind_ok_iff.mpr ⟨_, (), _, runs_perform_iff.mpr rfl, ?_, rfl⟩
  refine runs_attempt_bind_ok_iff.mpr ⟨_, pswPage, [], runs_perform_iff.mpr rfl, ?_, rfl⟩
  refine runs_attempt_iff.mpr (.inr ⟨_, ?_, rfl⟩)
  exact Program.runs_pure_iff.mpr ⟨rfl, (acceptReply_eq_ok_iff.mpr ⟨hsuccess, rfl⟩).symm⟩

/-- **Which runs are accepted**: the two requests go to one base URL, with the id of the first page
as the cookie of the second. The second page says that the login has succeeded and does not ask for
a second factor, and the id is the one it names, or else the first one. -/
theorem login_eq_ok_iff {id : String} :
    Runs (login lib config).run t (.ok id)
      ↔ ∃ authPage pswPage twfId key modulus exponent encrypted,
        IsTagValue authPage "TwfID" twfId ∧ IsTagValue authPage "RSA_ENCRYPT_KEY" key
          ∧ lib.parseHex key = some modulus
          ∧ parseU32 ((extractTag authPage "RSA_ENCRYPT_EXP").getD "65537") = .ok exponent
          ∧ IsSuccess pswPage ∧ id = (extractTag pswPage "TwfID").getD twfId
          ∧ t = acceptedLogin lib config authPage pswPage twfId modulus exponent encrypted := by
  constructor
  · intro h
    rw [login, runs_attempt_bind_ok_iff] at h
    obtain ⟨t₁, u₁, t₁', hclient, hget, rfl⟩ := h
    obtain ⟨t₂, u₂, t₂', hgot, htext, rfl⟩ := runs_attempt_bind_ok_iff.mp hget
    obtain ⟨t₃, authPage, t₃', hauth, hpage, rfl⟩ := runs_attempt_bind_ok_iff.mp htext
    obtain ⟨twfId, htwf, hrest⟩ := runs_check_bind_ok_iff.mp hpage
    obtain ⟨key, hkey, hrest'⟩ := runs_check_bind_ok_iff.mp hrest
    obtain ⟨e, -, herror⟩ | ⟨t₄, hex, t₄', hencrypt, hpost, rfl⟩ :=
      Fallible.runs_bind_iff.mp hrest'
    · cases herror
    obtain ⟨t₅, u₅, t₅', hposted, htext', rfl⟩ := runs_attempt_bind_ok_iff.mp hpost
    obtain ⟨t₆, pswPage, t₆', hpsw, hlast, rfl⟩ := runs_attempt_bind_ok_iff.mp htext'
    obtain ⟨modulus, exponent, encrypted, hmod, hexp, rfl, rfl⟩ :=
      runs_encryptPasswordHex_ok.mp hencrypt
    obtain ⟨e, -, herror⟩ | ⟨id', hend, hid'⟩ := runs_attempt_iff.mp hlast
    · cases herror
    obtain rfl := Except.ok.inj hid'
    obtain ⟨rfl, haccept⟩ := Program.runs_pure_iff.mp hend
    obtain ⟨hsuccess, hid⟩ := acceptReply_eq_ok_iff.mp haccept.symm
    obtain rfl := runs_perform_iff.mp hclient
    obtain rfl := runs_perform_iff.mp hgot
    obtain rfl := runs_perform_iff.mp hauth
    obtain rfl := runs_perform_iff.mp hposted
    obtain rfl := runs_perform_iff.mp hpsw
    exact ⟨authPage, pswPage, twfId, key, modulus, exponent, encrypted,
      requireTag_eq_ok_iff.mp htwf, requireTag_eq_ok_iff.mp hkey, hmod, hexp, hsuccess, hid, rfl⟩
  · rintro ⟨authPage, pswPage, twfId, key, modulus, exponent, encrypted, htwf, hkey, hmod, hexp,
      hsuccess, rfl, rfl⟩
    exact runs_acceptedLogin encrypted htwf hkey hmod hexp hsuccess

/-! ## The form -/

theorem loginPswBody_eq (coder : FormCoder) (csrf username encryptedPasswordHex : String) :
    loginPswBody coder.encode csrf username encryptedPasswordHex
      = formText coder.encode [("svpn_rand_code", ""), ("mitm", ""), ("svpn_req_randcode", csrf),
        ("svpn_name", username), ("svpn_password", encryptedPasswordHex)] := by
  have hparts : ∀ {code name password : String},
      code = "svpn_rand_code" ++ "=" ++ "" ++ "&" ++ ("mitm" ++ "=" ++ "") ++ "&"
        ++ ("svpn_req_randcode" ++ "=") → name = "&" ++ ("svpn_name" ++ "=") →
      password = "&" ++ ("svpn_password" ++ "=") →
      code ++ coder.encode csrf ++ name ++ coder.encode username ++ password
        ++ coder.encode encryptedPasswordHex
      = formText coder.encode [("svpn_rand_code", ""), ("mitm", ""), ("svpn_req_randcode", csrf),
        ("svpn_name", username), ("svpn_password", encryptedPasswordHex)] := by
    rintro _ _ _ rfl rfl rfl
    simp only [formText, List.map_cons, List.map_nil, coder.encode_empty,
      String.intercalate_cons_cons, String.intercalate_singleton, String.append_assoc]
  exact hparts (by decide +kernel) (by decide +kernel) (by decide +kernel)

/-- A request with the form, after the calls of `d`: its cookie and its code come from the first
page, and its password from the encryption. -/
structure IsLoginPost (lib : LoginLib) (config : AppConfig) (d : LoginTrace)
    (url cookie contentType body : String) : Prop where
  url : url = loginPswUrl (normalizeBaseUrl config.server)
  contentType : contentType = "application/x-www-form-urlencoded"
  parts : ∃ authPage twfId encrypted,
    ⟨.text, .ok authPage⟩ ∈ d ∧ IsTagValue authPage "TwfID" twfId ∧ cookie = "TWFID=" ++ twfId
      ∧ ⟨.encrypt (Utf8.asBytes (passwordInput config.password
        ((extractTag authPage "CSRF_RAND_CODE").getD ""))), .ok encrypted⟩ ∈ d
      ∧ body = loginPswBody lib.encode ((extractTag authPage "CSRF_RAND_CODE").getD "")
        config.username (lib.hexEncode encrypted)

def PostAllowed (lib : LoginLib) (config : AppConfig) (d : LoginTrace) : LoginOp → Prop
  | .post url cookie contentType body => IsLoginPost lib config d url cookie contentType body
  | _ => True

theorem meets_encryptPasswordHex {d : LoginTrace} (password rsaKeyHex rsaExp : String) :
    Meets (PostAllowed lib config) Thread.log
      (fun hex d' ↦ d <+: d' ∧ ∃ encrypted, hex = lib.hexEncode encrypted
        ∧ ⟨.encrypt (Utf8.asBytes password), .ok encrypted⟩ ∈ d')
      (fun _ ↦ True) d (encryptPasswordHex lib password rsaKeyHex rsaExp) := by
  refine Meets.bind (meets_check trivial) ?_
  rintro modulus _ ⟨-, rfl⟩
  refine Meets.bind (meets_check trivial) ?_
  rintro exponent _ ⟨-, rfl⟩
  have hkey : Meets (PostAllowed lib config) Thread.log (fun _ d' ↦ d <+: d') (fun _ ↦ True) d
      (attempt (perform (LoginOp.rsaPublicKey modulus exponent)) fun e ↦
        EcError.runtime ("invalid RSA public key: " ++ e)) := by
    refine meets_attempt (.call trivial fun ans ↦ .done ?_)
    rcases ans with e | u
    · trivial
    · exact List.prefix_append ..
  refine Meets.bind hkey fun u d₁ hd₁ ↦ ?_
  have hencrypt : Meets (PostAllowed lib config) Thread.log
      (fun encrypted d' ↦ d <+: d' ∧ ⟨.encrypt (Utf8.asBytes password), .ok encrypted⟩ ∈ d')
      (fun _ ↦ True) d₁
      (attempt (perform (LoginOp.encrypt (Utf8.asBytes password))) fun e ↦
        EcError.runtime ("RSA encrypt failed: " ++ e)) := by
    refine meets_attempt (.call trivial fun ans ↦ .done ?_)
    rcases ans with e | encrypted
    · trivial
    · exact ⟨hd₁.trans (List.prefix_append ..), List.mem_append_right _ List.mem_cons_self⟩
  refine Meets.bind hencrypt ?_
  rintro encrypted d₂ ⟨hd₂, hmem⟩
  exact meets_pure ⟨hd₂, encrypted, rfl, hmem⟩

theorem meets_text {d : LoginTrace} (f : String → EcError) :
    Meets (PostAllowed lib config) Thread.log (fun page d' ↦ d' = d ++ [⟨.text, .ok page⟩])
      (fun _ ↦ True) d (attempt (perform LoginOp.text) f) := by
  refine meets_attempt (.call trivial fun ans ↦ .done ?_)
  rcases ans with e | page
  · trivial
  · rfl

/-- A call of which only that it is allowed matters. -/
theorem meets_any {β : Type} {d : LoginTrace} {p : Program LoginOp LoginAns (Except String β)}
    (hp : Obeys (PostAllowed lib config) Thread.log (fun _ _ ↦ True) d p) (f : String → EcError) :
    Meets (PostAllowed lib config) Thread.log (fun _ _ ↦ True) (fun _ ↦ True) d (attempt p f) := by
  refine meets_attempt (hp.mono fun r d' _ ↦ ?_)
  rcases r with e | b
  · trivial
  · trivial

theorem meets_login :
    Meets (PostAllowed lib config) Thread.log (fun _ _ ↦ True) (fun _ ↦ True) []
      (login lib config) := by
  refine Meets.bind (meets_any ?_ _) fun _ d₁ _ ↦ ?_
  · exact .call trivial fun _ ↦ .done trivial
  refine Meets.bind (meets_any ?_ _) fun _ d₂ _ ↦ ?_
  · exact .call trivial fun _ ↦ .done trivial
  refine Meets.bind (meets_text _) ?_
  rintro authPage _ rfl
  refine Meets.bind (meets_check trivial) ?_
  rintro twfId _ ⟨htwf, rfl⟩
  refine Meets.bind (meets_check trivial) ?_
  rintro key _ ⟨-, rfl⟩
  refine Meets.bind (meets_encryptPasswordHex ..) ?_
  rintro _ d₃ ⟨hd₃, encrypted, rfl, hmem⟩
  have hpage : ⟨.text, .ok authPage⟩ ∈ d₃ :=
    hd₃.subset (List.mem_append_right _ List.mem_cons_self)
  have hallowed : IsLoginPost lib config d₃ (loginPswUrl (normalizeBaseUrl config.server))
      ("TWFID=" ++ twfId) "application/x-www-form-urlencoded"
      (loginPswBody lib.encode ((extractTag authPage "CSRF_RAND_CODE").getD "") config.username
        (lib.hexEncode encrypted)) :=
    ⟨rfl, rfl, authPage, twfId, encrypted, hpage, requireTag_eq_ok_iff.mp htwf, rfl, hmem, rfl⟩
  refine Meets.bind (meets_any ?_ _) fun _ d₄ _ ↦ ?_
  · exact .call hallowed fun _ ↦ .done trivial
  refine Meets.bind (meets_text _) ?_
  rintro pswPage _ -
  rcases acceptReply twfId pswPage with e | id
  · exact meets_attempt (.done trivial)
  · exact meets_attempt (.done trivial)

/-- **The request with the form**: whatever the two sides answer, it goes to the server of the
configuration with the id and the code of the page that came before it, and a reader of forms finds
in it the name of the user and the password as the encryption gave it. -/
theorem login_posts {coder : FormCoder} {r : Except EcError String}
    (hlib : lib.encode = coder.encode) (hrun : Runs (login lib config).run t r)
    {front back : LoginTrace}
    {url cookie contentType body : String} {ans : Except String Unit}
    (ht : t = front ++ ⟨.post url cookie contentType body, ans⟩ :: back) :
    IsLoginPost lib config front url cookie contentType body
      ∧ ∃ csrf encrypted, formFields coder.decode body = [("svpn_rand_code", ""), ("mitm", ""),
        ("svpn_req_randcode", csrf), ("svpn_name", config.username),
        ("svpn_password", lib.hexEncode encrypted)]
        ∧ ⟨.encrypt (Utf8.asBytes (passwordInput config.password csrf)), .ok encrypted⟩
          ∈ front := by
  have hpost := Obeys.allowed_of_runs meets_login hrun ht
  rw [observe_log, List.nil_append] at hpost
  refine ⟨hpost, ?_⟩
  obtain ⟨authPage, twfId, encrypted, -, -, -, hmem, rfl⟩ := hpost.parts
  refine ⟨(extractTag authPage "CSRF_RAND_CODE").getD "", encrypted, ?_, hmem⟩
  rw [hlib, loginPswBody_eq]
  have hkeys : ∀ key ∈ ["svpn_rand_code", "mitm", "svpn_req_randcode", "svpn_name",
      "svpn_password"], key.toList.all isUnreserved = true := by decide +kernel
  exact formFields_formText coder (List.cons_ne_nil _ _) fun field hfield ↦
    hkeys _ (List.mem_map_of_mem hfield)

/-- Keys and messages of one digit. -/
def digitLogin : LoginLib where
  parseHex s := s.toList.head?.bind hexValue
  hexEncode bytes := String.ofList (bytes.map fun b ↦ upperDigit b.toNat)
  encode := percentEncode

def aliceConfig (password : String) : AppConfig :=
  ⟨"vpn.example.com", "alice&co", password, "127.0.0.1:1080", none, [], false⟩

def alicePage : String :=
  "<TwfID>a</TwfID><RSA_ENCRYPT_KEY>F</RSA_ENCRYPT_KEY><CSRF_RAND_CODE>7</CSRF_RAND_CODE>"

def aliceLogin (password : String) : LoginTrace :=
  acceptedLogin digitLogin (aliceConfig password) alicePage "<Result>1</Result><TwfID>b</TwfID>" "a"
    15 65537 [8]

theorem runs_aliceLogin (password : String) :
    Runs (login digitLogin (aliceConfig password)).run (aliceLogin password) (.ok "b") := by
  have htwf : IsTagValue alicePage "TwfID" "a" := extractTag_eq_some_iff.mp (by decide +kernel)
  have hkey : IsTagValue alicePage "RSA_ENCRYPT_KEY" "F" :=
    extractTag_eq_some_iff.mp (by decide +kernel)
  have hid : (extractTag "<Result>1</Result><TwfID>b</TwfID>" "TwfID").getD "a" = "b" := by
    decide +kernel
  rw [← hid]
  exact runs_acceptedLogin [8] htwf hkey (by decide +kernel) (by decide +kernel)
    ⟨containsStr_iff.mp (by decide +kernel),
      unsupported2faReason_eq_none_iff.mp (by decide +kernel)⟩

theorem login_posts_alice :
    ∃ csrf encrypted, formFields formDecode (loginPswBody percentEncode "7" "alice&co" "8")
      = [("svpn_rand_code", ""), ("mitm", ""), ("svpn_req_randcode", csrf),
        ("svpn_name", "alice&co"), ("svpn_password", digitLogin.hexEncode encrypted)] := by
  have hcsrf : (extractTag alicePage "CSRF_RAND_CODE").getD "" = "7" := by decide +kernel
  have hhex : digitLogin.hexEncode [8] = "8" := by decide +kernel
  have hcalls : aliceLogin "secret" = [_, _, _, _, _] ++ _ :: [_] := rfl
  have hlib : digitLogin.encode = percentCoder.encode := rfl
  obtain ⟨-, csrf, encrypted, hfields, -⟩ := login_posts hlib (runs_aliceLogin "secret") hcalls
  rw [hcsrf, hhex] at hfields
  exact ⟨csrf, encrypted, hfields⟩

/-! ## What nobody sees -/

/-- Two messages for the encryption. -/
inductive Hides : (op op' : LoginOp) → (LoginAns op → LoginAns op') → Prop
  | encrypt (message message' : List UInt8) : Hides (.encrypt message) (.encrypt message') id

/-- A call as it is seen by everyone but the encryption. -/
def conceal : Exchange LoginOp LoginAns → Exchange LoginOp LoginAns
  | ⟨.encrypt _, ans⟩ => ⟨.encrypt [], ans⟩
  | e => e

theorem conceal_eq_of_alikeCall {e e' : Exchange LoginOp LoginAns} (h : AlikeCall Hides e e') :
    conceal e = conceal e' := by
  obtain _ | ⟨hop, ans⟩ := h
  · rfl
  · obtain ⟨message, message'⟩ := hop
    rfl

theorem map_conceal_eq {t t' : LoginTrace} (h : List.Forall₂ (AlikeCall Hides) t t') :
    t'.map conceal = t.map conceal := by
  induction h with
  | nil => rfl
  | cons hcall _ ih => rw [List.map_cons, List.map_cons, conceal_eq_of_alikeCall hcall, ih]

theorem alike_encryptPasswordHex (password password' rsaKeyHex rsaExp : String) :
    Alike Hides (encryptPasswordHex lib password rsaKeyHex rsaExp).run
      (encryptPasswordHex lib password' rsaKeyHex rsaExp).run := by
  refine alike_bind (.refl _) fun modulus ↦ alike_bind (.refl _) fun exponent ↦ ?_
  refine alike_bind (.refl _) fun _ ↦ alike_bind (alike_attempt ?_ _) fun _ ↦ .refl _
  exact .hidden (.encrypt _ _) fun _ ↦ .done

/-- **The password goes into the encryption and nowhere else**: what a login does with one password
it may do with any other, so that all the calls but the message to be encrypted, and the result, are
the same. -/
theorem login_hides_password {config' : AppConfig} (hserver : config'.server = config.server)
    (husername : config'.username = config.username) {r : Except EcError String}
    (hrun : Runs (login lib config).run t r) :
    ∃ t', Runs (login lib config').run t' r ∧ t'.map conceal = t.map conceal := by
  have halike : Alike Hides (login lib config).run (login lib config').run := by
    rw [login, login, hserver, husername]
    refine alike_bind (.refl _) fun _ ↦ alike_bind (.refl _) fun _ ↦ ?_
    refine alike_bind (.refl _) fun authPage ↦ alike_bind (.refl _) fun twfId ↦ ?_
    refine alike_bind (.refl _) fun key ↦ ?_
    exact alike_bind (alike_encryptPasswordHex ..) fun _ ↦ .refl _
  obtain ⟨t', hrun', hcalls⟩ := halike.of_runs hrun
  exact ⟨t', hrun', map_conceal_eq hcalls⟩

theorem login_hides_password_alice :
    ∃ t', Runs (login digitLogin (aliceConfig "other")).run t' (.ok "b")
      ∧ t'.map conceal = (aliceLogin "secret").map conceal := by
  have hserver : (aliceConfig "other").server = (aliceConfig "secret").server := rfl
  have husername : (aliceConfig "other").username = (aliceConfig "secret").username := rfl
  exact login_hides_password hserver husername (runs_aliceLogin "secret")

end Runs

end ShiepPipeline
