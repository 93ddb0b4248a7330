import DamMonitoring.Program.Pool
import DamMonitoring.Controller.NormalBand
import DamMonitoring.Controller.AlarmTheorems
import DamMonitoring.Controller.FailureIsolation
import DamMonitoring.Controller.Calls
import DamMonitoring.Controller.AtRest
import DamMonitoring.Controller.DeviceKnowledge
import DamMonitoring.Controller.Displays
import DamMonitoring.Controller.SustainedWater
import DamMonitoring.Controller.RangeInvariant
import DamMonitoring.Controller.Freshness
import DamMonitoring.Controller.ThresholdRaces
import DamMonitoring.Motes.GateGrammar
import DamMonitoring.Motes.AlarmGrammar
import DamMonitoring.Motes.EventLoop
import DamMonitoring.Motes.FlatFields
import DamMonitoring.Motes.GateReplies
import DamMonitoring.Motes.Ramp
import DamMonitoring.Collector.LatestFlow
import DamMonitoring.Collector.Reconnection
import DamMonitoring.Collector.RegistrationText
import DamMonitoring.Deployment.Echo
import DamMonitoring.Deployment.Agreement
import DamMonitoring.Deployment.FloodSafety
import DamMonitoring.Deployment.Handshake
import DamMonitoring.Motes.ThreeSensors
import DamMonitoring.Motes.Recovery
import DamMonitoring.Deployment.Supply
import DamMonitoring.Controller.LastingEmergency
import DamMonitoring.Motes.Lights
import DamMonitoring.Deployment.Metering
