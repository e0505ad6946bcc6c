import ServiceOperator.Proofs.Kinds.ConnectionKeys
import ServiceOperator.Proofs.Text.Uris

/-!
# The address of a pool

The connection secret of a pool holds its address next to the values that the address is made of.
If the control plane reports no address, it is put together from these values, without escapes.  So
the address tells the values of the secret if and only if they stand for themselves in a URI
(`ConnectionPoolSpec.built_uri_tells_values_iff`).

The reading of URIs is that of `Proofs.Text.Uris`, and the only thing to check here is that the
address is pieces pasted together (`toList_uri`) whose texts the secret holds under its own keys.
The condition is on all five of them and not on the password alone, because nothing is escaped,
whichever value a character stands in.
-/

namespace ServiceOperator

/-- Pieces of a URI are values of a connection secret. -/
structure UriPieces.AreOf (x : UriPieces) (info : ConnectionInfo) : Prop where
  user : info.get? "USER" = some (String.ofList x.user)
  password : info.get? "PASSWORD" = some (String.ofList x.password)
  host : info.get? "HOST" = some (String.ofList x.host)
  port : info.get? "PORT" = some (String.ofList x.port)
  path : info.get? "DATABASE" = some (String.ofList x.path)

/-- A connection secret has values for one URI only. -/
theorem UriPieces.AreOf.unique {x y : UriPieces} {info : ConnectionInfo} (one : x.AreOf info)
    (other : y.AreOf info) : x = y := by
  have same {a b : List Char} {v : Option String} (one : v = some (String.ofList a))
      (other : v = some (String.ofList b)) : a = b :=
    String.ofList_injective (Option.some.inj (one.symm.trans other))
  obtain ⟨⟩ := x
  obtain ⟨⟩ := y
  simp only [UriPieces.mk.injEq]
  exact ⟨same one.user other.user, same one.password other.password, same one.host other.host,
    same one.port other.port, same one.path other.path⟩

/-- The address in a connection secret is a URI that gives back the other values of the secret. -/
def AddressTellsValues (info : ConnectionInfo) : Prop :=
  ∃ address x y, info.get? "DATABASE_URI" = some address ∧ Uri.parse? address.toList = some x ∧
    x.Reads y ∧ y.AreOf info

namespace ConnectionPoolSpec

variable {s : ConnectionPoolSpec} {p : ServicePool} {ca : String} {info : ConnectionInfo}

/-- The address is its pieces, pasted behind a scheme. -/
theorem toList_uri (x : UriPieces) (sslMode : String) :
    (uri (String.ofList x.user) (String.ofList x.password) (String.ofList x.host)
      (String.ofList x.port) (String.ofList x.path) sslMode).toList =
    "postgres".toList ++ ':' :: '/' :: '/' :: x.paste ("sslmode=".toList ++ sslMode.toList) := by
  have joined (scheme colon atSign slash query : String) :
      (scheme ++ String.ofList x.user ++ colon ++ String.ofList x.password ++ atSign ++
        String.ofList x.host ++ colon ++ String.ofList x.port ++ slash ++ String.ofList x.path ++
        query ++ sslMode).toList =
      scheme.toList ++ (x.user ++ (colon.toList ++ (x.password ++ (atSign.toList ++ (x.host ++
        (colon.toList ++ (x.port ++ (slash.toList ++ (x.path ++ (query.toList ++
        sslMode.toList)))))))))) := by
    simp only [String.toList_append, String.toList_ofList, List.append_assoc]
  have scheme : "postgres://".toList = "postgres".toList ++ [':', '/', '/'] := by decide
  have colon : ":".toList = [':'] := by decide
  have atSign : "@".toList = ['@'] := by decide
  have slash : "/".toList = ['/'] := by decide
  have query : "?sslmode=".toList = '?' :: "sslmode=".toList := by decide
  refine (joined "postgres://" ":" "@" "/" "?sslmode=").trans ?_
  rw [scheme, colon, atSign, slash, query, UriPieces.paste, UriPieces.authority]
  simp only [List.append_assoc, List.cons_append, List.nil_append]

/-- The address that is put together is read by its pieces, with the mode behind the question
mark. -/
theorem parse?_uri (x : UriPieces) (sslMode : String) :
    Uri.parse? (uri (String.ofList x.user) (String.ofList x.password) (String.ofList x.host)
      (String.ofList x.port) (String.ofList x.path) sslMode).toList =
    Uri.pieces? (x.paste ("sslmode=".toList ++ sslMode.toList)) := by
  rw [toList_uri]
  exact Uri.parse?_behind_scheme (by decide)

/-- A connection secret has the values that its address is put together from. -/
theorem values_of_connectionInfo (unset : p.pool.connectionUri = none)
    (given : s.connectionInfo p ca = .ok info) : ∃ x : UriPieces, x.AreOf info ∧
      ∃ sslMode, info.get? "DATABASE_URI" = some (uri (String.ofList x.user)
        (String.ofList x.password) (String.ofList x.host) (String.ofList x.port)
        (String.ofList x.path) sslMode) := by
  have governed := s.governs_connectionInfo p ca
  rw [given] at governed
  obtain ⟨present, told, -⟩ : (s.keySet ca p).Describes info := by
    cases governed with
    | complete described => exact described
  have tells (name : String) (source : String → Prop) {v : String}
      (listed : ⟨name, true, source⟩ ∈ (s.keySet ca p).keys) (holds : source v) :
      info.get? name = some v :=
    (told _ listed v).mpr holds
  let source := Preferably (fun v => p.pool.connectionUri = some v) (s.IsBuiltUri p)
  have addressed : ⟨"DATABASE_URI", true, source⟩ ∈ (s.keySet ca p).keys := by
    simp [keySet, source]
  obtain ⟨address, found⟩ := Option.ne_none_iff_exists'.mp
    ((present "DATABASE_URI").mpr ⟨_, addressed, rfl, .inl rfl⟩)
  -- The address is put together, as none is reported.
  rcases (told _ addressed address).mp found with reported | ⟨-, built⟩
  · cases unset.symm.trans reported
  · obtain ⟨e, serves, password, isPassword, sslMode, -, rfl⟩ := built
    refine ⟨⟨s.username.toList, password.toList, e.host.toList, e.port.toList,
      p.pool.poolName.toList⟩, ⟨?_, ?_, ?_, ?_, ?_⟩, sslMode, ?_⟩
    all_goals simp only [String.ofList_toList]
    · exact tells "USER" (· = s.username) (by simp [keySet]) rfl
    · exact tells "PASSWORD" (s.IsPassword p) (by simp [keySet]) isPassword
    · exact tells "HOST" (Of (frontPair p.service).serves Endpoint.host)
        (by simp [keySet, KeyPair.keys, frontPair]) ⟨e, serves, rfl⟩
    · exact tells "PORT" (Of (frontPair p.service).serves Endpoint.port)
        (by simp [keySet, KeyPair.keys, frontPair]) ⟨e, serves, rfl⟩
    · exact tells "DATABASE" (· = p.pool.poolName) (by simp [keySet]) rfl
    · exact found

/-- **The address that is put together for a pool tells the values of its connection secret if and
only if they stand for themselves** in it. -/
theorem built_uri_tells_values_iff (unset : p.pool.connectionUri = none)
    (given : s.connectionInfo p ca = .ok info) :
    AddressTellsValues info ↔ ∃ x : UriPieces, x.AreOf info ∧ x.Plain := by
  obtain ⟨x, values, sslMode, address⟩ := values_of_connectionInfo unset given
  constructor
  · rintro ⟨text, read, y, found, parsed, reads, same⟩
    obtain rfl := same.unique values
    obtain rfl := Option.some.inj (address.symm.trans found)
    rw [parse?_uri] at parsed
    exact ⟨y, values, UriPieces.reads_paste_iff.mp ⟨read, parsed, reads⟩⟩
  · rintro ⟨y, same, plain⟩
    obtain rfl := same.unique values
    obtain ⟨read, parsed, reads⟩ := UriPieces.reads_paste_iff.mpr plain
    exact ⟨_, read, y, address, (parse?_uri y sslMode).trans parsed, reads, values⟩

end ConnectionPoolSpec

/-! ## Two passwords -/

namespace Pooled

/-- A pool that connects as a user called `app`. -/
def spec : ConnectionPoolSpec where
  project := "p"
  serviceName := "s"
  databaseName := "d"
  username := "app"
  poolSize := none
  poolMode := none
  secretTarget := none
  secretTargetDisabled := none

/-- The service of the pool, on which the user has a password. -/
def service (password : String) : ServiceDocument where
  serviceName := "s"
  serviceType := ""
  state := ""
  plan := none
  cloudName := none
  projectVpcId := none
  terminationProtection := none
  serviceUri := none
  serviceUriParams := .empty
  components := [⟨"pgbouncer", "pool.example.com", 6432, none, some "primary", none⟩]
  users := [⟨"app", some password, none, none, none, none⟩]
  connectionPools := []
  tags := .empty

/-- The pool as it is read, without an address. -/
def remote (password : String) : ServicePool :=
  ⟨service password, ⟨"orders", "d", some "app", none, none, none⟩⟩

end Pooled

/-- A password of letters is read back, with all the other values. -/
theorem built_uri_tells_letters :
    ∃ info, Pooled.spec.connectionInfo (Pooled.remote "secret") "CA" = .ok info ∧
      AddressTellsValues info := by
  have unset : (Pooled.remote "secret").pool.connectionUri = none := rfl
  have given : Pooled.spec.connectionInfo (Pooled.remote "secret") "CA" = .ok _ := rfl
  refine ⟨_, given, (ConnectionPoolSpec.built_uri_tells_values_iff unset given).mpr
    ⟨⟨"app".toList, "secret".toList, "pool.example.com".toList, "6432".toList, "orders".toList⟩,
      ⟨rfl, rfl, rfl, rfl, rfl⟩, ⟨?_, by decide, by decide, .inr (by decide), ?_⟩,
      ?_, ?_, ?_, ?_, ?_⟩⟩
  · simp [UriPieces.authority, Uri.endsAuthority]
  · simp [Uri.endsPath]
  all_goals exact Text.unescaped_of_not_mem (by decide)

/-- **A password with a slash is not read back**: the authority of the address ends in it. -/
theorem not_built_uri_tells : ¬ ∀ (s : ConnectionPoolSpec) (p : ServicePool) (ca : String)
    (info : ConnectionInfo), p.pool.connectionUri = none → s.connectionInfo p ca = .ok info →
    AddressTellsValues info := by
  intro tells
  obtain ⟨address, x, y, found, parsed, -⟩ :=
    tells Pooled.spec (Pooled.remote "a/b") "CA" _ rfl rfl
  have misread : Uri.parse?
      "postgres://app:a/b@pool.example.com:6432/orders?sslmode=require".toList = none := by decide
  have built : some "postgres://app:a/b@pool.example.com:6432/orders?sslmode=require" =
    some address := found
  rw [← Option.some.inj built, misread] at parsed
  cases parsed

end ServiceOperator
