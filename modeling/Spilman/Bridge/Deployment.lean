/-
# Deployments

A bridge is deployed with a new store of either kind, next to a mint, a refresher and
a clock of which nothing is known, and serves calls one after the other. The worlds it
goes through are its `history`; between two calls it is in a world `afterCalls`.
-/

import Spilman.Bridge.Closing
import Spilman.Storage.Config

namespace Spilman

open Lib

/-! ## Deployments -/

/-- A bridge with a new store, next to a mint, a refresher and a clock. -/
structure Deployment (T : Carriers) (ω : Type) where
  backend : StorageConfig
  config : ConfigurableHostConfig
  serverPubkey : T.PublicKey
  serverSecretHex : String
  environment : Environment T ω
  env : ω

namespace Deployment

open Bridge

variable {T : Carriers} {ω : Type} (L : Cashu T) (K : KeyOps T) (D : Deployment T ω)

def host : ConfigurableHost T (D.backend.Store T) :=
  ⟨D.config, D.serverPubkey, D.serverSecretHex, D.backend.storage L⟩

/-- How the world around the calls answers them. -/
def server : Server (requests T (D.backend.Store T)) (World (D.backend.Store T) ω) :=
  serve (D.host L).storage D.environment

/-- The world before the first call. -/
def start : World (D.backend.Store T) ω := ⟨D.backend.new, D.env⟩

/-- What can be seen of a channel. -/
def view (world : World (D.backend.Store T) ω) (channelId : String) : ChannelView T :=
  (D.host L).storage.view world.store channelId

/-- A call that runs alone. -/
def call (operation : Operation T) (world : World (D.backend.Store T) ω) :
    Reply T × World (D.backend.Store T) ω :=
  (operation.program L K (D.host L)).run (D.server L) world

/-- The worlds that a call goes through when it runs alone, with the one it starts in. -/
def during (operation : Operation T) (world : World (D.backend.Store T) ω) :
    List (World (D.backend.Store T) ω) :=
  world :: (operation.program L K (D.host L)).visited (D.server L) world

/-- Calls one after the other, as one program. -/
def calls (operations : List (Operation T)) : Program (requests T (D.backend.Store T)) Unit :=
  Program.sequence (fun operation => operation.program L K (D.host L)) operations

/-- The world after some calls. -/
def afterCalls (operations : List (Operation T)) : World (D.backend.Store T) ω :=
  ((D.calls L K operations).run (D.server L) D.start).2

/-- All worlds that some calls go through. -/
def history (operations : List (Operation T)) : List (World (D.backend.Store T) ω) :=
  D.start :: (D.calls L K operations).visited (D.server L) D.start

/-- Every call is made in a world that meets a condition. -/
def Throughout (condition : Operation T → World (D.backend.Store T) ω → Prop)
    (operations : List (Operation T)) : Prop :=
  Program.Throughout (D.server L) (fun operation => operation.program L K (D.host L)) condition
    operations D.start

theorem afterCalls_append (operations : List (Operation T)) (operation : Operation T) :
    D.afterCalls L K (operations ++ [operation]) =
      (D.call L K operation (D.afterCalls L K operations)).2 := by
  unfold afterCalls calls call
  rw [Program.run_sequence_append]

/-- A call ends in a world it goes through. -/
theorem call_mem_during (operation : Operation T) (world : World (D.backend.Store T) ω) :
    (D.call L K operation world).2 ∈ D.during L K operation world := by
  have last := Program.getLast_visited (D.server L) (operation.program L K (D.host L)) world
  unfold call during
  rw [← last]
  exact List.getLast_mem _

end Deployment

/-! ## A small deployment -/

namespace Sample

open Bridge

/-- Key agreement by which the parties of the small channel get its secret. -/
def agreedKeys : KeyOps carriers := { keyOps with hkdf := fun _ _ => sharedSecret }

/-- One trusted mint, and one sat for every character. -/
def satConfig : ConfigurableHostConfig where
  mints := (∅ : Table String (List String)).insert "m" ["sat"]
  minExpirySeconds := 100
  pricingScale := 1
  pricing := (∅ : Table String UnitPricingConfig).insert "sat"
    ⟨1, none, (∅ : Table String Nat).insert "chars" 1⟩

/-- A mint that cannot be reached, and a clock that stands still. -/
def unreachable : Environment carriers Unit where
  now := fun _ => 1000
  pass := id
  callMintSwap := fun _ _ env => (.error (.transport "unreachable"), env)
  refresh := fun _ env => (([], .ok ()), env)

/-- A bridge whose mint cannot be reached. -/
def deployment (backend : StorageConfig) : Deployment carriers Unit where
  backend
  config := satConfig
  serverPubkey := point 4
  serverSecretHex := Hex.encode (bytes32 4).val
  environment := unreachable
  env := ()

def cacheKeyset (keyset : KeysetInfo carriers) : Operation carriers :=
  .setKeyset "m" keyset.keysetId ⟨keyset.toJson library, true, keyset.unit⟩

/-- The sender pays for the first time, and uses some characters. -/
def Opening.pay (opening : Opening) (balance chars : Nat) : Operation carriers :=
  .processPayment ⟨opening.channelId, balance, opening.signature, some opening.paramsVal,
    some opening.proofs⟩ (.obj [("chars", .num chars)])

/-- The sender asks to close with a balance. -/
def Opening.close (opening : Opening) (balance : Nat) (signature : String) : Operation carriers :=
  .executeCooperativeClose (.obj [("channel_id", .str opening.channelId),
    ("balance", .num balance), ("signature", .str signature)])

/-- The receiver has cached a keyset and was paid. -/
def paid (backend : StorageConfig) (keyset : KeysetInfo carriers) (opening : Opening)
    (balance chars : Nat) : World ((deployment backend).backend.Store carriers) Unit :=
  (deployment backend).afterCalls library agreedKeys
    [cacheKeyset keyset, opening.pay balance chars]

/-- The receiver closes next, and fails. -/
def closes (opening : Opening) :
    Reply carriers × World ((deployment .memory).backend.Store carriers) Unit :=
  (deployment .memory).call library agreedKeys (.executeUnilateralClose opening.channelId)
    (paid .memory (pairs "sat") opening 2 1)

/-- A channel that was paid two and has used one, a close that is interrupted, and another
one that asks for less. -/
structure Interrupted (opening : Opening) (refund : String) : Prop where
  opened : ((deployment .memory).view library (paid .memory (pairs "sat") opening 2 1)
    opening.channelId).state = .ok (some .opened)
  failed : (closes opening).1.isOk = false
  closing : ((deployment .memory).view library (closes opening).2 opening.channelId).ClosingWith
    ⟨2, opening.signature⟩
  replaced : ((deployment .memory).view library ((deployment .memory).call library agreedKeys
    (opening.close 1 refund) (closes opening).2).2 opening.channelId).ClosingWith ⟨1, refund⟩

instance (opening : Opening) (refund : String) : Decidable (Interrupted opening refund) :=
  decidable_of_iff (_ ∧ _ ∧ _ ∧ _)
    ⟨fun ⟨opened, failed, closing, replaced⟩ => ⟨opened, failed, closing, replaced⟩,
      fun run => ⟨run.opened, run.failed, run.closing, run.replaced⟩⟩

theorem exists_interrupted : ∃ opening refund, Interrupted opening refund := by
  have ran : ((two "m").openWith (pairs "sat") 2).okAnd (fun opening =>
      ((two "m").sign (pairs "sat") 1).okAnd fun refund =>
        decide (Interrupted opening refund)) = true := by
    decide +kernel
  obtain ⟨opening, -, ran⟩ := Outcome.exists_of_okAnd ran
  obtain ⟨refund, -, ran⟩ := Outcome.exists_of_okAnd ran
  exact ⟨opening, refund, of_decide_eq_true ran⟩

end Sample

end Spilman
