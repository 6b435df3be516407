/-
# Encrypted connections

The caller says whether servers are verified, against which trust anchors and by which
ciphers.  For every encrypted transfer this is turned into a row of settings, which are
made before the transfer is performed: TLS 1.2 or 1.3 and HTTP/1.1 always, and trust
anchors only where servers are verified.
-/
import PlainLink.Http.Setting

namespace PlainLink

/-- Suites with forward secrecy first, and none without authentication or with broken parts. -/
def defaultCiphers : Text :=
  Text.join [':']
    (["ECDHE+AESGCM", "ECDHE+CHACHA20", "DHE+AESGCM", "DHE+CHACHA20", "ECDH+AESGCM", "DH+AESGCM",
      "ECDH+AES", "DH+AES", "RSA+AESGCM", "RSA+AES", "!aNULL", "!eNULL", "!MD5", "!DSS"].map
      String.toList)

/-- What the caller asks of encrypted connections. -/
structure TlsOptions where
  /-- The certificate and the name of the host are verified. -/
  verify : Bool := true
  /-- The path of a file of trust anchors that the caller names. -/
  anchorFile : Option Text := none
  ciphers : Text := defaultCiphers
  deriving DecidableEq, Repr

namespace TlsOptions

/-- The trust anchors: those of the caller's file if it is there now, else the bundled ones. -/
def trustAnchors (o : TlsOptions) (isFile : Text → Bool) : TrustAnchors :=
  match o.anchorFile with
  | some path => if isFile path then .file path else .bundled
  | none => .bundled

/-- Trust anchors are of use only where servers are verified. -/
def anchorSettings (o : TlsOptions) (isFile : Text → Bool) : List Setting :=
  if o.verify then [.anchors (o.trustAnchors isFile)] else []

/-- What is set for an encrypted connection. -/
def settings (o : TlsOptions) (isFile : Text → Bool) : List Setting :=
  [.verifyPeer o.verify, .verifyHost o.verify, .tlsVersions .v12 .v13, .ciphers o.ciphers]
    ++ o.anchorSettings isFile ++ [.httpVersion .v11]

end TlsOptions

end PlainLink
