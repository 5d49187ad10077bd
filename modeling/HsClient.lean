import HsClient.Basic
import HsClient.Caches
import HsClient.Circuits
import HsClient.Connections
import HsClient.FetchScheduler
import HsClient.IntroSelection
import HsClient.IntroCircuit
import HsClient.RendCircuit
import HsClient.EventLoop
import HsClient.FetchInvariants
import HsClient.DescriptorArrival
import HsClient.StreamLifecycle
import HsClient.StreamDecisions
import HsClient.ServiceIsolation
import HsClient.CircuitSteps
import HsClient.RelayEarly
import HsClient.ClosedCircuits
import HsClient.IntroLifecycle
import HsClient.RendezvousLifecycle
import HsClient.IntroKeyBinding
import HsClient.RetryLoop
