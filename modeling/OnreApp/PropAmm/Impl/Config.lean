import OnreApp.Basic

namespace OnreApp

open Checked

def defaultCurvePegHaircutBps : Nat := 700

def curveExponentScale : Nat := 10000

def curveExponentStep : Nat := 1000

def defaultCurveExponentScaled : Nat := 25000

def defaultCadenceThreshold : Nat := 20

def cadenceWaveScale : Nat := 10000

def cadenceWaveStep : Nat := 1000

def maxCadenceWaveScaled : Nat := 50000

def defaultCadenceWaveScaled : Nat := 10000

def cadenceWaveEase : Nat := 8

def cadenceWaveCapDivisor : Nat := 3

def defaultEpochDurationSeconds : Int := 86400

def wallSensitivityScale : Nat := 10000

def defaultWallSensitivityScaled : Nat := 20000

def defaultMinimumSellHaircutOnyc : Nat := 5000000000

structure PropAmmPairState where
  offer : Pubkey
  assetMint : Pubkey
  onycMint : Pubkey
  enabled : Bool
  curvePegHaircutBps : Nat
  curveExponentScaled : Nat
  cadenceThreshold : Nat
  cadenceWaveScaled : Nat
  epochDurationSeconds : Int
  wallSensitivityScaled : Nat
  minimumSellHaircutOnyc : Nat
  currSellValueStable : Nat
  currBuyValueStable : Nat
  prevNetSellValueStable : Nat
  currSellTradeCount : Nat
  epochStart : Int
  -- the duration is an `i64`, and doubling it saturates there
  epochDurationSeconds_le : epochDurationSeconds ≤ i64Max := by decide
  deriving DecidableEq

def PropAmmPairState.default : PropAmmPairState where
  offer := .default
  assetMint := .default
  onycMint := .default
  enabled := false
  curvePegHaircutBps := defaultCurvePegHaircutBps
  curveExponentScaled := defaultCurveExponentScaled
  cadenceThreshold := defaultCadenceThreshold
  cadenceWaveScaled := defaultCadenceWaveScaled
  epochDurationSeconds := defaultEpochDurationSeconds
  wallSensitivityScaled := defaultWallSensitivityScaled
  minimumSellHaircutOnyc := defaultMinimumSellHaircutOnyc
  currSellValueStable := 0
  currBuyValueStable := 0
  prevNetSellValueStable := 0
  currSellTradeCount := 0
  epochStart := 0

structure PropAmmConfig where
  enabled : Bool
  curvePegHaircutBps : Nat
  curveExponentScaled : Nat
  cadenceThreshold : Nat
  cadenceWaveScaled : Nat
  epochDurationSeconds : Int
  wallSensitivityScaled : Nat
  minimumSellHaircutOnyc : Nat
  epochDurationSeconds_le : epochDurationSeconds ≤ i64Max := by decide
  deriving DecidableEq

def PropAmmConfig.validate (config : PropAmmConfig) : Result Unit := do
  require (config.curvePegHaircutBps ≤ maxBasisPoints) .invalidAmount
  require
    (curveExponentStep ≤ config.curveExponentScaled ∧
      config.curveExponentScaled ≤ saturatingMul u32Max curveExponentScale 10) .invalidAmount
  require (config.curveExponentScaled % curveExponentStep = 0) .invalidAmount
  require (0 < config.cadenceThreshold) .invalidAmount
  require (config.cadenceWaveScaled ≤ maxCadenceWaveScaled) .invalidAmount
  require (config.cadenceWaveScaled % cadenceWaveStep = 0) .invalidAmount
  require (0 < config.epochDurationSeconds) .invalidAmount
  require (0 < config.wallSensitivityScaled) .invalidAmount

end OnreApp
