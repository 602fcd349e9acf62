import ProxyControl.Lib.Uri
import ProxyControl.ReferenceCrates
import ProxyControl.Subscription

/-!
# Reading a subscription

`readSubscription` decodes a subscription and parses each of its lines as a link.
The display name of a credential is percent-encoded and the user information of
Shadowsocks is base64, so neither can be taken for a delimiter.  The other
credentials, the host and the server name are written as they are: a link is read
back exactly when none of them contains a character that ends it.
-/

namespace ProxyControl

/-! ## The reader -/

/-- What is read from a link. -/
structure ReadLink where
  material : CredentialMaterial
  displayName : String
  host : String
  port : UInt16
deriving DecidableEq

def fromUtf8 (bytes : Bytes) : Option String :=
  String.fromUTF8? ⟨bytes.toArray⟩

def readPort (digits : List Char) : Option UInt16 :=
  let port := Nat.ofDigitChars 10 digits 0
  if digits ≠ [] ∧ digits.all Char.isDigit = true ∧ port < 2 ^ 16 then
    some (UInt16.ofNat port)
  else none

def readMaterial (scheme userinfo : List Char) : Option CredentialMaterial :=
  if scheme = "vless".toList then
    some (.vlessUuid (String.ofList userinfo))
  else if scheme = "trojan".toList then
    some (.trojanPassword (String.ofList userinfo))
  else if scheme = "ss".toList then do
    let text ← fromUtf8 (← Base64.decode [] userinfo)
    let (method, password) ← text.toList.splitFirst ':'
    return .shadowsocksPassword (String.ofList method) (String.ofList password)
  else none

def readLink (line : List Char) : Option ReadLink := do
  let uri ← Uri.parse line
  let material ← readMaterial uri.scheme uri.userinfo
  let displayName ← fromUtf8 (Uri.percentDecode uri.fragment)
  let port ← readPort uri.port
  return ⟨material, displayName, String.ofList uri.host, port⟩

/-- The lines of a text; an empty text has none. -/
def lines (text : List Char) : List (List Char) :=
  if text = [] then [] else text.splitOn '\n'

def readSubscription (bodyBase64 : String) : Option (List ReadLink) := do
  let text ← fromUtf8 (← Base64.decode ['='] bodyBase64.toList)
  (lines text.toList).mapM readLink

/-- What the link of a credential should say. -/
def linkSays (profile : DeployedProfile) (credential : Credential) :
    ReadLink where
  material := credential.material
  displayName := credential.displayName
  host := profile.host
  port := profile.port

def activeCredentials (profile : DeployedProfile) : List Credential :=
  profile.credentials.filter Credential.isActive

/--
A subscription is read as the active credentials in their order, and without
one of them the links of the others are the same.
-/
structure RoundTrips
    (generate : DeployedProfile → SubscriptionArtifact)
    (profile : DeployedProfile) : Prop where
  links : readSubscription (generate profile).bodyBase64 =
    some ((activeCredentials profile).map (linkSays profile))
  others : ∀ before credential after,
    profile.credentials = before ++ credential :: after →
    credential.isActive = true →
    readSubscription
        (generate { profile with credentials := before ++ after }).bodyBase64 =
      (readSubscription (generate profile).bodyBase64).map
        (fun links => links.eraseIdx (before.filter Credential.isActive).length)

/-! ## Fields that are written as they are -/

def Avoids (delimiters : List Char) (text : String) : Prop :=
  ∀ c ∈ delimiters, c ∉ text.toList

instance (delimiters : List Char) (text : String) :
    Decidable (Avoids delimiters text) :=
  List.decidableBAll (fun c => c ∉ text.toList) delimiters

/-- What is written for a credential contains nothing that would end it. -/
def PlainMaterial (serverName : String) : CredentialMaterial → Prop
  | .vlessUuid secret | .trojanPassword secret =>
      Avoids ['\n', '#', '?'] secret ∧ Avoids ['\n', '#'] serverName
  | .shadowsocksPassword method _ => Avoids [':'] method

instance (serverName : String) (material : CredentialMaterial) :
    Decidable (PlainMaterial serverName material) :=
  match material with
  | .vlessUuid _ | .trojanPassword _ => inferInstanceAs (Decidable (_ ∧ _))
  | .shadowsocksPassword .. => inferInstanceAs (Decidable (Avoids ..))

/-- No field of the link contains what would end it. -/
def PlainFields (profile : DeployedProfile) (credential : Credential) : Prop :=
  Avoids ['\n', '#', '?', '@'] profile.host ∧
    PlainMaterial profile.realityServerName credential.material

instance (profile : DeployedProfile) (credential : Credential) :
    Decidable (PlainFields profile credential) :=
  inferInstanceAs (Decidable (_ ∧ _))

/-- The base64 crate encodes in the standard alphabet. -/
structure EncodesBase64 (crates : Crates) : Prop where
  padded : ∀ bytes, crates.base64Encode bytes =
    String.ofList (Base64.encode ['='] bytes)
  unpadded : ∀ bytes, crates.base64EncodeNoPad bytes =
    String.ofList (Base64.encode [] bytes)

/-! ## Links as they are printed -/

/-- The link of a credential, part by part. -/
def linkUri
    (crates : Crates) (profile : DeployedProfile)
    (credential : Credential) : Uri where
  scheme := match credential.material with
    | .vlessUuid _ => "vless".toList
    | .trojanPassword _ => "trojan".toList
    | .shadowsocksPassword .. => "ss".toList
  userinfo := match credential.material with
    | .vlessUuid secret | .trojanPassword secret => secret.toList
    | .shadowsocksPassword method password =>
        (crates.base64EncodeNoPad (utf8 (method ++ ":" ++ password))).toList
  host := profile.host.toList
  port := (toString profile.port.toNat).toList
  query := match credential.material with
    | .vlessUuid _ => some
        ("encryption=none&flow=xtls-rprx-vision&security=reality&sni=".toList ++
          profile.realityServerName.toList ++ "&fp=chrome&type=tcp".toList)
    | .trojanPassword _ => some
        ("security=tls&sni=".toList ++ profile.realityServerName.toList)
    | .shadowsocksPassword .. => none
  fragment := (utf8PercentEncode credential.displayName).toList

variable {crates : Crates} {profile : DeployedProfile}
variable {credential : Credential}

theorem toList_subscriptionLink
    (crates : Crates) (profile : DeployedProfile) (credential : Credential) :
    (subscriptionLink crates profile credential).toList =
      (linkUri crates profile credential).text := by
  unfold subscriptionLink Uri.text Uri.body Uri.authority linkUri
  cases credential.material <;>
    simp [Uri.queryText, String.toList_append]

/-! ## Single parts -/

theorem fromUtf8_eq_some_iff
    {bytes : Bytes} {text : String} :
    fromUtf8 bytes = some text ↔ bytes = utf8 text := by
  unfold fromUtf8 String.fromUTF8? utf8
  constructor
  · intro h
    split_ifs at h with hvalid
    obtain rfl := Option.some.inj h
    rfl
  · rintro rfl
    have hvalid : ByteArray.IsValidUTF8
        ⟨text.toUTF8.data.toList.toArray⟩ := by
      rw [Array.toArray_toList]
      exact text.isValidUTF8
    rw [dif_pos hvalid]
    congr 1

theorem not_mem_port
    {c : Char} (hc : c.isDigit = false) (port : UInt16) :
    c ∉ (toString port.toNat).toList := by
  intro hmem
  rw [Nat.toString_eq_repr, Nat.toList_repr] at hmem
  rw [Nat.isDigit_of_mem_toDigits (by omega) (by omega) hmem] at hc
  cases hc

theorem readPort_toString
    (port : UInt16) :
    readPort (toString port.toNat).toList = some port := by
  have hlt := port.toNat_lt
  have hall : (Nat.toDigits 10 port.toNat).all Char.isDigit = true :=
    List.all_eq_true.mpr fun c hc =>
      Nat.isDigit_of_mem_toDigits (by omega) (by omega) hc
  rw [Nat.toString_eq_repr, Nat.toList_repr]
  simp only [readPort, Nat.ofDigitChars_ten_toDigits]
  rw [if_pos ⟨Nat.toDigits_ne_nil, hall, hlt⟩, UInt16.ofNat_toNat]

/-! ### Display names -/

/-- What a byte of a display name is written as. -/
theorem percentDecode_percentByte
    (b : UInt8) (rest : List Char) :
    Uri.percentDecode (percentByte b ++ rest) =
      b :: Uri.percentDecode rest := by
  have hdigit : ∀ n : Fin 16, Hex.digitValue
      (if n.val < 10 then Char.ofNat (48 + n) else Char.ofNat (55 + n)) =
        some n.val := by
    decide
  have hb := b.toNat_lt
  have hhigh := hdigit ⟨b.toNat / 16, by omega⟩
  have hlow := hdigit ⟨b.toNat % 16, by omega⟩
  have hvalue : 16 * (b.toNat / 16) + b.toNat % 16 = b.toNat :=
    Nat.div_add_mod b.toNat 16
  simp only [percentByte, List.cons_append, List.nil_append,
    Uri.percentDecode, hhigh, hlow, hvalue, UInt8.ofNat_toNat]

theorem percentDecode_alphanum
    {b : UInt8} (h : (Char.ofNat b.toNat).isAlphanum = true)
    (rest : List Char) :
    Uri.percentDecode (Char.ofNat b.toNat :: rest) =
      b :: Uri.percentDecode rest := by
  have hall : ∀ n : Fin 256, (Char.ofNat n).isAlphanum = true →
      Char.ofNat n ≠ '%' ∧
        String.utf8EncodeChar (Char.ofNat n) = [UInt8.ofNat n] := by
    decide +kernel
  obtain ⟨hpercent, hencode⟩ := hall ⟨b.toNat, b.toNat_lt⟩ h
  simp only [UInt8.ofNat_toNat] at hencode
  rw [Uri.percentDecode_cons (fun _ _ _ heq => absurd heq hpercent), hencode]
  rfl

/-- A display name is read back from its encoded form. -/
theorem percentDecode_utf8PercentEncode
    (name : String) :
    Uri.percentDecode (utf8PercentEncode name).toList = utf8 name := by
  rw [utf8PercentEncode, String.toList_ofList]
  generalize utf8 name = bytes
  induction bytes with
  | nil => rfl
  | cons b bytes ih =>
      rw [List.flatMap_cons]
      dsimp only
      split_ifs with halphanum
      · rw [List.cons_append, List.nil_append,
          percentDecode_alphanum halphanum, ih]
      · rw [percentDecode_percentByte, ih]

theorem not_mem_name
    {c : Char} (hc : c.isAlphanum = false) (hpercent : c ≠ '%')
    (name : String) :
    c ∉ (utf8PercentEncode name).toList := by
  have hdigit : ∀ n : Fin 16,
      (if n.val < 10 then Char.ofNat (48 + n)
        else Char.ofNat (55 + n)).isAlphanum = true := by
    decide
  rw [utf8PercentEncode, String.toList_ofList]
  intro hmem
  obtain ⟨b, -, hb⟩ := List.mem_flatMap.mp hmem
  have hlt := b.toNat_lt
  dsimp only at hb
  split_ifs at hb with halphanum
  · obtain rfl := List.mem_singleton.mp hb
    rw [hc] at halphanum
    cases halphanum
  · simp only [percentByte, List.mem_cons, List.not_mem_nil, or_false] at hb
    rcases hb with rfl | rfl | rfl
    · exact hpercent rfl
    · rw [hdigit ⟨b.toNat / 16, by omega⟩] at hc
      cases hc
    · rw [hdigit ⟨b.toNat % 16, by omega⟩] at hc
      cases hc

/-- A fragment is the encoded name only if it is all that follows a `#`. -/
theorem percentDecode_ne
    {before : List Char} {name : String} :
    Uri.percentDecode (before ++ '#' :: (utf8PercentEncode name).toList) ≠
      utf8 name := by
  intro h
  have hencode : String.utf8EncodeChar '#' = [35] := by
    decide
  rw [Uri.percentDecode_append (by decide),
    Uri.percentDecode_cons (fun _ _ _ heq => absurd heq (by decide)), hencode,
    percentDecode_utf8PercentEncode] at h
  have hlength := congrArg List.length h
  simp only [List.length_append, List.length_cons, List.length_nil] at hlength
  omega

/-! ### Credentials -/

theorem readMaterial_vless
    {scheme userinfo : List Char} {uuid : String}
    (h : readMaterial scheme userinfo = some (.vlessUuid uuid)) :
    userinfo = uuid.toList := by
  unfold readMaterial at h
  split_ifs at h
  · simp only [Option.some.injEq, CredentialMaterial.vlessUuid.injEq] at h
    rw [← h, String.toList_ofList]
  · cases h
  · simp [Option.bind_eq_some_iff] at h

theorem readMaterial_trojan
    {scheme userinfo : List Char} {password : String}
    (h : readMaterial scheme userinfo = some (.trojanPassword password)) :
    userinfo = password.toList := by
  unfold readMaterial at h
  split_ifs at h
  · cases h
  · simp only [Option.some.injEq, CredentialMaterial.trojanPassword.injEq] at h
    rw [← h, String.toList_ofList]
  · simp [Option.bind_eq_some_iff] at h

theorem readMaterial_shadowsocks
    {scheme userinfo : List Char} {method password : String}
    (h : readMaterial scheme userinfo =
      some (.shadowsocksPassword method password)) :
    ':' ∉ method.toList := by
  unfold readMaterial at h
  split_ifs at h
  · cases h
  · cases h
  · simp only [Option.bind_eq_bind, Option.bind_eq_some_iff, Prod.exists,
      List.splitFirst_eq_some_iff, Option.pure_def, Option.some.injEq,
      CredentialMaterial.shadowsocksPassword.injEq] at h
    obtain ⟨-, -, -, -, before, after, ⟨-, hmethod⟩, rfl, -⟩ := h
    rwa [String.toList_ofList]

/-- The account of a Shadowsocks link is read back from its base64 form. -/
theorem readMaterial_encode
    (hbase64 : EncodesBase64 crates) {method password : String}
    (hmethod : ':' ∉ method.toList) :
    readMaterial "ss".toList
        (crates.base64EncodeNoPad (utf8 (method ++ ":" ++ password))).toList =
      some (.shadowsocksPassword method password) := by
  have hsplit : (method ++ ":" ++ password).toList.splitFirst ':' =
      some (method.toList, password.toList) := by
    rw [List.splitFirst_eq_some_iff]
    exact ⟨by simp [String.toList_append], hmethod⟩
  have hdecode : Base64.decode []
      (crates.base64EncodeNoPad (utf8 (method ++ ":" ++ password))).toList =
        some (utf8 (method ++ ":" ++ password)) := by
    rw [hbase64.unpadded, String.toList_ofList, Base64.decode_encode (by simp)]
  have htext : fromUtf8 (utf8 (method ++ ":" ++ password)) =
      some (method ++ ":" ++ password) :=
    fromUtf8_eq_some_iff.mpr rfl
  unfold readMaterial
  rw [if_neg (by decide), if_neg (by decide), if_pos rfl]
  simp only [Option.bind_eq_bind, Option.bind_some, hdecode, htext, hsplit,
    Option.pure_def, String.ofList_toList]

/-! ## Single links -/

theorem not_mem_base64
    (hbase64 : EncodesBase64 crates) {c : Char} (hc : Base64.value c = none)
    (bytes : Bytes) :
    c ∉ (crates.base64EncodeNoPad bytes).toList := by
  rw [hbase64.unpadded, String.toList_ofList]
  intro hmem
  rcases Base64.mem_encode hmem with hvalue | hpad
  · rw [hc] at hvalue
    cases hvalue
  · cases hpad

theorem PlainFields.userinfo
    (hbase64 : EncodesBase64 crates) (h : PlainFields profile credential)
    {c : Char} (hc : c ∈ ['\n', '#', '?']) :
    c ∉ (linkUri crates profile credential).userinfo := by
  have hvalue : Base64.value c = none := by
    simp only [List.mem_cons, List.not_mem_nil, or_false] at hc
    rcases hc with rfl | rfl | rfl <;> decide
  obtain ⟨-, hfields⟩ := h
  unfold linkUri
  cases hmaterial : credential.material with
  | vlessUuid | trojanPassword =>
      rw [hmaterial] at hfields
      exact hfields.1 c hc
  | shadowsocksPassword => exact not_mem_base64 hbase64 hvalue _

theorem PlainFields.query
    (h : PlainFields profile credential)
    {c : Char} (hc : c ∈ ['\n', '#']) :
    c ∉ Uri.queryText (linkUri crates profile credential).query := by
  have htexts : c ≠ '?' ∧
      c ∉ "encryption=none&flow=xtls-rprx-vision&security=reality&sni=".toList ∧
      c ∉ "&fp=chrome&type=tcp".toList ∧ c ∉ "security=tls&sni=".toList := by
    have hcases := hc
    simp only [List.mem_cons, List.not_mem_nil, or_false] at hcases
    rcases hcases with rfl | rfl <;> decide
  obtain ⟨hquestion, hvless, htype, htrojan⟩ := htexts
  obtain ⟨-, hfields⟩ := h
  unfold linkUri
  cases hmaterial : credential.material with
  | vlessUuid =>
      rw [hmaterial] at hfields
      simp only [Uri.queryText, List.mem_cons, List.mem_append, not_or]
      exact ⟨hquestion, ⟨hvless, hfields.2 c hc⟩, htype⟩
  | trojanPassword =>
      rw [hmaterial] at hfields
      simp only [Uri.queryText, List.mem_cons, List.mem_append, not_or]
      exact ⟨hquestion, htrojan, hfields.2 c hc⟩
  | shadowsocksPassword => exact List.not_mem_nil

theorem PlainFields.authority
    (hbase64 : EncodesBase64 crates) (h : PlainFields profile credential)
    {c : Char} (hc : c ∈ ['\n', '#', '?']) :
    c ∉ (linkUri crates profile credential).authority := by
  have huserinfo := h.userinfo hbase64 hc
  have hhost : c ∉ profile.host.toList :=
    h.1 c (List.mem_append_left ['@'] hc)
  simp only [List.mem_cons, List.not_mem_nil, or_false] at hc
  have hdelimiters : c.isDigit = false ∧ c ≠ '@' ∧ c ≠ ':' := by
    rcases hc with rfl | rfl | rfl <;> decide
  obtain ⟨hdigit, hat, hcolon⟩ := hdelimiters
  simp only [Uri.authority, List.mem_append, List.mem_cons, not_or]
  exact ⟨huserinfo, hat, hhost, hcolon, not_mem_port hdigit _⟩

theorem PlainFields.body
    (hbase64 : EncodesBase64 crates) (h : PlainFields profile credential)
    {c : Char} (hc : c ∈ ['\n', '#']) :
    c ∉ (linkUri crates profile credential).body := by
  rw [Uri.body, List.mem_append, not_or]
  exact ⟨h.authority hbase64 (List.mem_append_left ['?'] hc), h.query hc⟩

theorem linkUri_scheme
    {c : Char} (hc : c ∈ ['\n', ':']) :
    c ∉ (linkUri crates profile credential).scheme := by
  have hschemes : c ∉ "vless".toList ∧ c ∉ "trojan".toList ∧
      c ∉ "ss".toList := by
    simp only [List.mem_cons, List.not_mem_nil, or_false] at hc
    rcases hc with rfl | rfl <;> decide
  obtain ⟨hvless, htrojan, hss⟩ := hschemes
  unfold linkUri
  cases credential.material with
  | vlessUuid => exact hvless
  | trojanPassword => exact htrojan
  | shadowsocksPassword => exact hss

theorem PlainFields.delimited
    (hbase64 : EncodesBase64 crates) (h : PlainFields profile credential) :
    (linkUri crates profile credential).Delimited where
  scheme := linkUri_scheme (by simp)
  body := h.body hbase64 (by simp)
  authority := h.authority hbase64 (by simp)
  address := by
    simp only [List.mem_append, List.mem_cons, not_or]
    exact ⟨h.1 '@' (by simp), by decide, not_mem_port (by decide) _⟩
  port := not_mem_port (by decide) _

theorem PlainFields.singleLine
    (hbase64 : EncodesBase64 crates) (h : PlainFields profile credential) :
    '\n' ∉ (linkUri crates profile credential).text := by
  simp only [Uri.text, List.mem_append, List.mem_cons, not_or]
  exact ⟨linkUri_scheme (by simp), by decide, by decide, by decide,
    h.body hbase64 (by simp), by decide,
    not_mem_name (by decide) (by decide) _⟩

/-- A link of plain fields is read back. -/
theorem PlainFields.readLink
    (hbase64 : EncodesBase64 crates) (h : PlainFields profile credential) :
    readLink (linkUri crates profile credential).text =
      some (linkSays profile credential) := by
  have hparse := Uri.parse_eq_some_iff.mpr ⟨rfl, h.delimited hbase64⟩
  have hmaterial : readMaterial (linkUri crates profile credential).scheme
      (linkUri crates profile credential).userinfo =
        some credential.material := by
    obtain ⟨-, hfields⟩ := h
    unfold linkUri
    cases hmaterial : credential.material with
    | vlessUuid | trojanPassword => simp [readMaterial]
    | shadowsocksPassword method password =>
        rw [hmaterial] at hfields
        exact readMaterial_encode hbase64 (hfields ':' (by simp))
  have hname : fromUtf8 (Uri.percentDecode
      (linkUri crates profile credential).fragment) =
        some credential.displayName :=
    fromUtf8_eq_some_iff.mpr (percentDecode_utf8PercentEncode _)
  have hport : readPort (linkUri crates profile credential).port =
      some profile.port :=
    readPort_toString _
  simp only [ProxyControl.readLink, hparse, hmaterial, hname, hport,
    Option.bind_eq_bind, Option.bind_some, Option.pure_def]
  simp [linkSays, linkUri]

/-- What is read back has plain fields. -/
theorem plainFields_of_readLink
    (hnewline : '\n' ∉ (linkUri crates profile credential).text)
    (hread : readLink (linkUri crates profile credential).text =
      some (linkSays profile credential)) :
    PlainFields profile credential := by
  simp only [readLink, Option.bind_eq_bind, Option.bind_eq_some_iff,
    Option.pure_def, Option.some.injEq, linkSays, ReadLink.mk.injEq] at hread
  obtain ⟨uri, hparse, material, hmaterial, name, hname, port, -, rfl, rfl,
    hhost, -⟩ := hread
  obtain ⟨htext, hdelimited⟩ := Uri.parse_eq_some_iff.mp hparse
  have hhost : uri.host = profile.host.toList := by
    rw [← hhost, String.toList_ofList]
  have hhash : '#' ∉ (linkUri crates profile credential).body := by
    intro hmem
    obtain ⟨before, hfragment⟩ := Uri.fragment_of_mem_body hdelimited
      (linkUri_scheme (by simp)) htext hmem
    rw [hfragment] at hname
    exact percentDecode_ne (fromUtf8_eq_some_iff.mp hname)
  have hat : '@' ∉ uri.host := by
    have haddress := hdelimited.address
    rw [List.mem_append, not_or] at haddress
    exact haddress.1
  obtain ⟨hnewlineAuthority, hnewlineQuery⟩ :=
    Uri.not_mem_body (Uri.not_mem_text hnewline)
  obtain ⟨hnewlineSecret, hnewlineHost⟩ :=
    Uri.not_mem_authority hnewlineAuthority
  obtain ⟨hhashAuthority, hhashQuery⟩ := Uri.not_mem_body hhash
  obtain ⟨hhashSecret, hhashHost⟩ := Uri.not_mem_authority hhashAuthority
  obtain ⟨hquestionSecret, hquestionHost⟩ :=
    Uri.not_mem_authority hdelimited.authority
  rw [hhost] at hat hquestionHost
  refine ⟨?_, ?_⟩
  · simp only [Avoids, List.forall_mem_cons, List.not_mem_nil, false_implies,
      implies_true, and_true]
    exact ⟨hnewlineHost, hhashHost, hquestionHost, hat⟩
  unfold linkUri at hnewlineSecret hnewlineQuery hhashSecret hhashQuery
  cases hkind : credential.material with
  | vlessUuid uuid =>
      rw [hkind] at hmaterial
      rw [readMaterial_vless hmaterial] at hquestionSecret
      simp only [hkind, Uri.queryText, List.mem_cons, List.mem_append, not_or]
        at hnewlineSecret hnewlineQuery hhashSecret hhashQuery
      simp only [PlainMaterial, Avoids, List.forall_mem_cons, List.not_mem_nil,
        false_implies, implies_true, and_true]
      exact ⟨⟨hnewlineSecret, hhashSecret, hquestionSecret⟩,
        hnewlineQuery.2.1.2, hhashQuery.2.1.2⟩
  | trojanPassword password =>
      rw [hkind] at hmaterial
      rw [readMaterial_trojan hmaterial] at hquestionSecret
      simp only [hkind, Uri.queryText, List.mem_cons, List.mem_append, not_or]
        at hnewlineSecret hnewlineQuery hhashSecret hhashQuery
      simp only [PlainMaterial, Avoids, List.forall_mem_cons, List.not_mem_nil,
        false_implies, implies_true, and_true]
      exact ⟨⟨hnewlineSecret, hhashSecret, hquestionSecret⟩,
        hnewlineQuery.2.2, hhashQuery.2.2⟩
  | shadowsocksPassword method password =>
      rw [hkind] at hmaterial
      simp only [PlainMaterial, Avoids, List.forall_mem_cons, List.not_mem_nil,
        false_implies, implies_true, and_true]
      exact readMaterial_shadowsocks hmaterial

/-! ## Lines -/

/-- Each of the joined texts is split on its own. -/
theorem lines_intercalate
    {links : List (List Char)} (h : ∀ link ∈ links, link ≠ []) :
    lines (['\n'].intercalate links) = links.flatMap (List.splitOn '\n') := by
  cases links with
  | nil => rfl
  | cons link links =>
      have hne : ['\n'].intercalate (link :: links) ≠ [] := by
        cases links with
        | nil => simpa using h
        | cons => simp
      rw [lines, if_neg hne]
      clear h hne
      induction links generalizing link with
      | nil => simp
      | cons next links ih =>
          rw [List.intercalate_cons_cons, List.append_assoc, List.cons_append,
            List.nil_append, List.splitOn_append_cons_self, ih]
          simp only [List.flatMap_cons]

theorem one_lt_length_splitOn
    {link : List Char} (h : '\n' ∈ link) :
    1 < (link.splitOn '\n').length := by
  obtain ⟨before, after, rfl, -⟩ := List.eq_append_cons_of_mem h
  have hbefore := List.length_pos_iff.mpr (List.splitOn_ne_nil '\n' before)
  have hafter := List.length_pos_iff.mpr (List.splitOn_ne_nil '\n' after)
  rw [List.splitOn_append_cons_self, List.length_append]
  omega

theorem length_le_flatMap
    (links : List (List Char)) :
    links.length ≤ (links.flatMap (List.splitOn '\n')).length := by
  induction links with
  | nil => simp
  | cons link links ih =>
      have hlink := List.length_pos_iff.mpr (List.splitOn_ne_nil '\n' link)
      rw [List.flatMap_cons, List.length_append, List.length_cons]
      omega

/-- A newline in one of the links adds a line. -/
theorem length_lt_flatMap
    {links : List (List Char)} {link : List Char}
    (hlink : link ∈ links) (h : '\n' ∈ link) :
    links.length < (links.flatMap (List.splitOn '\n')).length := by
  obtain ⟨before, after, rfl⟩ := List.append_of_mem hlink
  have hbefore := length_le_flatMap before
  have hafter := length_le_flatMap after
  have hsplit := one_lt_length_splitOn h
  rw [List.flatMap_append, List.flatMap_cons]
  simp only [List.length_append, List.length_cons]
  omega

theorem flatMap_splitOn
    {links : List (List Char)} (h : ∀ link ∈ links, '\n' ∉ link) :
    links.flatMap (List.splitOn '\n') = links := by
  induction links with
  | nil => rfl
  | cons link links ih =>
      rw [List.flatMap_cons,
        List.splitOn_eq_singleton (h link List.mem_cons_self),
        ih (fun l hl => h l (List.mem_cons_of_mem _ hl))]
      rfl

section Mapping

variable {α β γ : Type} {f : β → Option γ}

theorem length_of_mapM
    {xs : List β} {ys : List γ} (h : xs.mapM f = some ys) :
    ys.length = xs.length := by
  induction xs generalizing ys with
  | nil =>
      obtain rfl := Option.some.inj h
      rfl
  | cons x xs ih =>
      simp only [List.mapM_cons, Option.bind_eq_bind, Option.bind_eq_some_iff,
        Option.pure_def, Option.some.injEq] at h
      obtain ⟨y, -, ys, hys, rfl⟩ := h
      rw [List.length_cons, List.length_cons, ih hys]

theorem mapM_map_eq_some_iff
    {g : α → β} {h : α → γ} {xs : List α} :
    (xs.map g).mapM f = some (xs.map h) ↔ ∀ x ∈ xs, f (g x) = some (h x) := by
  induction xs with
  | nil => simp
  | cons x xs ih =>
      simp only [List.map_cons, List.mapM_cons, Option.bind_eq_bind,
        Option.bind_eq_some_iff, Option.pure_def, Option.some.injEq,
        List.cons.injEq, List.forall_mem_cons, ← ih]
      constructor
      · rintro ⟨y, hy, ys, hys, rfl, rfl⟩
        exact ⟨hy, hys⟩
      · rintro ⟨hy, hys⟩
        exact ⟨_, hy, _, hys, rfl, rfl⟩

end Mapping

/-! ## Subscriptions -/

section Subscriptions

variable {id tenantId actor : String} {now : Calendar.DateTime}

theorem readSubscription_generate
    (hbase64 : EncodesBase64 crates) :
    readSubscription (generateSubscriptionArtifact crates id now tenantId
        profile actor).bodyBase64 =
      (((activeCredentials profile).map (fun credential =>
        (linkUri crates profile credential).text)).flatMap
          (List.splitOn '\n')).mapM readLink := by
  have htext : ("\n".intercalate (subscriptionLinks crates profile)).toList =
      ['\n'].intercalate ((activeCredentials profile).map (fun credential =>
        (linkUri crates profile credential).text)) := by
    rw [String.toList_intercalate, subscriptionLinks, List.map_map]
    simp only [Function.comp_def, toList_subscriptionLink]
    rfl
  have hdecode : Base64.decode ['=']
      (generateSubscriptionArtifact crates id now tenantId profile
        actor).bodyBase64.toList =
        some (utf8 ("\n".intercalate (subscriptionLinks crates profile))) := by
    simp only [generateSubscriptionArtifact]
    rw [hbase64.padded, String.toList_ofList, Base64.decode_encode]
    intro c hc
    obtain rfl := List.mem_singleton.mp hc
    decide
  have hutf8 : fromUtf8
      (utf8 ("\n".intercalate (subscriptionLinks crates profile))) =
        some ("\n".intercalate (subscriptionLinks crates profile)) :=
    fromUtf8_eq_some_iff.mpr rfl
  simp only [readSubscription, hdecode, hutf8, Option.bind_eq_bind,
    Option.bind_some, htext]
  rw [lines_intercalate]
  intro link hlink
  obtain ⟨credential, -, rfl⟩ := List.mem_map.mp hlink
  simp [Uri.text]

/-- All links are read back exactly when all fields are plain. -/
theorem readSubscription_eq_iff
    (hbase64 : EncodesBase64 crates) :
    readSubscription (generateSubscriptionArtifact crates id now tenantId
          profile actor).bodyBase64 =
        some ((activeCredentials profile).map (linkSays profile)) ↔
      ∀ credential ∈ activeCredentials profile,
        PlainFields profile credential := by
  rw [readSubscription_generate hbase64]
  constructor
  · intro hread
    have hlines : ∀ credential ∈ activeCredentials profile,
        '\n' ∉ (linkUri crates profile credential).text := by
      intro credential hcredential hmem
      have hlength := length_of_mapM hread
      have hlink : (linkUri crates profile credential).text ∈
          (activeCredentials profile).map (fun credential =>
            (linkUri crates profile credential).text) :=
        List.mem_map_of_mem hcredential
      have hlt := length_lt_flatMap hlink hmem
      simp only [List.length_map] at hlength hlt
      omega
    have hlines' : ∀ link ∈ (activeCredentials profile).map (fun credential =>
        (linkUri crates profile credential).text), '\n' ∉ link := by
      simpa using hlines
    rw [flatMap_splitOn hlines'] at hread
    intro credential hcredential
    exact plainFields_of_readLink (hlines credential hcredential)
      (mapM_map_eq_some_iff.mp hread credential hcredential)
  · intro hplain
    rw [flatMap_splitOn, mapM_map_eq_some_iff]
    · exact fun credential hcredential =>
        (hplain credential hcredential).readLink hbase64
    · intro link hlink
      obtain ⟨credential, hcredential, rfl⟩ := List.mem_map.mp hlink
      exact (hplain credential hcredential).singleLine hbase64

/-- A subscription is read back exactly when all its fields are plain. -/
theorem subscription_round_trips_iff
    (hbase64 : EncodesBase64 crates) :
    RoundTrips (fun profile => generateSubscriptionArtifact crates id now
        tenantId profile actor) profile ↔
      ∀ credential ∈ activeCredentials profile,
        PlainFields profile credential := by
  constructor
  · exact fun h => (readSubscription_eq_iff hbase64).mp h.links
  intro hplain
  refine ⟨(readSubscription_eq_iff hbase64).mpr hplain, ?_⟩
  intro before credential after hcredentials hactive
  have hactives : activeCredentials profile =
      before.filter Credential.isActive ++ credential ::
        after.filter Credential.isActive := by
    rw [activeCredentials, hcredentials, List.filter_append,
      List.filter_cons_of_pos hactive]
  have hothers : ∀ other ∈ activeCredentials
      { profile with credentials := before ++ after },
      PlainFields { profile with credentials := before ++ after } other := by
    intro other hother
    refine hplain other ?_
    rw [activeCredentials, List.filter_append, List.mem_append] at hother
    rw [hactives, List.mem_append, List.mem_cons]
    tauto
  rw [(readSubscription_eq_iff hbase64).mpr hplain,
    (readSubscription_eq_iff hbase64).mpr hothers, Option.map_some, hactives]
  simp only [activeCredentials, List.filter_append, List.map_append,
    List.map_cons]
  rw [List.eraseIdx_append_of_length_le (by simp)]
  simp only [List.length_map, Nat.sub_self, List.eraseIdx_cons_zero]
  rfl

theorem encodesBase64_reference :
    EncodesBase64 referenceCrates where
  padded _ := rfl
  unpadded _ := rfl

/-- A profile with one client, who has the given password. -/
def trojanProfile (password : String) : DeployedProfile where
  profileId := "profile"
  host := "node.example"
  port := 443
  realityServerName := "example.com"
  credentials := [
    { id := "client"
      clientGroupId := "group_default"
      displayName := "Alice"
      status := .active
      material := .trojanPassword password }]

theorem subscription_round_trips_plain :
    RoundTrips (fun profile => generateSubscriptionArtifact referenceCrates ""
      ⟨0, 0⟩ "tenant" profile "system") (trojanProfile "correct horse") :=
  (subscription_round_trips_iff encodesBase64_reference).mpr (by decide)

/-- The password of the only client begins a second link. -/
theorem trojan_password_adds_link :
    readSubscription (generateSubscriptionArtifact referenceCrates "" ⟨0, 0⟩
      "tenant" (trojanProfile "x@node.example:443#Bob\ntrojan://y")
      "system").bodyBase64 =
        some [⟨.trojanPassword "x", "Bob", "node.example", 443⟩,
          ⟨.trojanPassword "y", "Alice", "node.example", 443⟩] := by
  decide +kernel

theorem not_every_subscription_round_trips :
    ¬ ∀ crates : Crates, EncodesBase64 crates →
      ∀ (id tenantId actor : String) (now : Calendar.DateTime)
        (profile : DeployedProfile),
      RoundTrips (fun profile => generateSubscriptionArtifact crates id now
        tenantId profile actor) profile := by
  intro h
  have hlinks := (h referenceCrates encodesBase64_reference "" "tenant"
    "system" ⟨0, 0⟩
    (trojanProfile "x@node.example:443#Bob\ntrojan://y")).links
  rw [trojan_password_adds_link] at hlinks
  exact absurd (congrArg (Option.map List.length) hlinks) (by decide)

end Subscriptions

end ProxyControl
