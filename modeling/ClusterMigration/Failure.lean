import ClusterMigration.IdentityProvider.Basic

/-!
# Failures

What may go wrong with one component. A failure stops the component it happens to and
no other.
-/

namespace ClusterMigration

inductive FetchError where
  | unreadable (path reason : String)
  /-- The file was read but could not be kept for the next time. -/
  | notKept (path reason : String)
  deriving DecidableEq, Repr

def FetchError.message : FetchError → String
  | unreadable path reason =>
    "unable to read \x60" ++ path ++ "\x60: \x60" ++ reason ++ "\x60"
  | notKept path reason =>
    "unable to write cache file \x60" ++ path ++ "\x60: \x60" ++ reason ++ "\x60"

inductive DeliveryError where
  | notWritten (path reason : String)
  | notRendered (reason : String)
  deriving DecidableEq, Repr

def DeliveryError.message : DeliveryError → String
  | notWritten path reason =>
    "unable to write \x60" ++ path ++ "\x60: \x60" ++ reason ++ "\x60"
  | notRendered reason =>
    "rendering report: \x60unable to serialize report: \x60" ++ reason ++ "\x60\x60"

inductive Failure where
  | fetch (e : FetchError)
  | undecodable (reason : String)
  | unparsable (file reason : String)
  | provider (e : IdentityProvider.ProviderError)
  /-- The configuration breaks a rule. -/
  | invalid (rule : String)
  /-- The new cluster has no counterpart. -/
  | unsupported (what : String)
  | unserializable (what reason : String)
  | delivery (e : DeliveryError)
  deriving DecidableEq, Repr

def Failure.message : Failure → String
  | fetch e => "fetching source file: \x60" ++ e.message ++ "\x60"
  | undecodable reason => "unable to decode master config: \x60" ++ reason ++ "\x60"
  | unparsable file reason =>
    "unable to parse \x60" ++ file ++ "\x60: \x60" ++ reason ++ "\x60"
  | provider e => e.message
  | invalid rule => rule
  | unsupported what => what
  | unserializable what reason =>
    "building manifest: \x60unable to serialize \x60" ++ what ++ "\x60 manifest: \x60" ++ reason
      ++ "\x60\x60"
  | delivery e => "flushing output: \x60" ++ e.message ++ "\x60"

end ClusterMigration
