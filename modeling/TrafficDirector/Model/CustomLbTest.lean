import TrafficDirector.Model.Ops

/-!
# TrafficDirector — the traffic director calls of `CustomLbTest`

`test_custom_lb_config` of `src/tests/custom_lb_test.py` sets up its load balancing by hand,
one subtest a call: the health check, a backend service with two custom locality LB policies,
the first of which names a policy that does not exist, the URL map for the test server's xDS
host and port, the target proxy and the forwarding rule. The test's other subtests start the
test server and client and check their RPCs; they make no call of the manager modelled here.
-/

namespace TrafficDirector

namespace CustomLbTest

/-- `_EXPECTED_STATUS.value[0]`: the code of `grpc.StatusCode.DATA_LOSS`. -/
def expectedStatusCode : Int := 15

/-- The `locality_lb_policies` of subtest `1_create_backend_service`: a custom policy that does
not exist, then the RPC-behavior policy answering every call with `_EXPECTED_STATUS`. -/
def localityLbPolicies : List Json :=
  [.obj [("customPolicy", .obj [("name", .str "test.ThisLoadBalancerDoesNotExist"),
      ("data", .str "\x7b \"foo\": \"bar\" \x7d")])],
    .obj [("customPolicy", .obj [("name", .str "test.RpcBehaviorLoadBalancer"),
      ("data", .str ("\x7b \"rpcBehavior\": \"error-code-" ++ toString expectedStatusCode ++
        "\" \x7d"))])]]

/-- Subtests `0_create_health_check` to `4_create_forwarding_rule` of `test_custom_lb_config`,
for the test server's xDS host and port, each call with the defaults it leaves. -/
def testCustomLbConfig (serverXdsHost : String) (serverXdsPort : Int) : List Op :=
  [.createHealthCheck (some .GRPC) none,
    .createBackendService (some .GRPC) none none (some localityLbPolicies) none,
    .createUrlMap serverXdsHost serverXdsPort,
    .createTargetProxy,
    .createForwardingRule serverXdsPort]

end CustomLbTest

end TrafficDirector
