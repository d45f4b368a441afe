/-
  Suite/Catalog.lean --- the scenarios by name, and how a selection of them
  comes out.

  Each scenario is named by its full path, `group::tests::name`; a name
  selects the scenarios it equals exactly, so a group's prefix alone selects
  none.  A selection passes when none of its scenarios fails, which an empty
  selection does trivially.  Scenarios are given the network they run in;
  only those that open sockets look at it.
-/
import TopicHub.Suite.Broker
import TopicHub.Suite.Dashboard
import TopicHub.Suite.Transport

set_option autoImplicit false

namespace TopicHub.Suite

/-- A named scenario: it holds or not in a given network. -/
structure Scenario where
  name : String
  holds : Net.Network → Bool

/-- A scenario that does not look at the network. -/
def Scenario.pure (name : String) (b : Bool) : Scenario := ⟨name, fun _ => b⟩

/-- The scenarios of the broker, the dashboard and their events. -/
def brokerScenarios : List Scenario :=
  let g := fun (n : String) (b : Bool) => Scenario.pure ("broker::tests::test_" ++ n) b
  [ g "on_open_registers_client" Broker.onOpenRegistersClient,
    g "on_close_removes_connection" Broker.onCloseRemovesConnection,
    g "socket_lookup_error_names_client" Broker.socketLookupErrorNamesClient,
    g "client_lookup_fails_for_unknown_socket" Broker.clientLookupFailsForUnknownSocket,
    g "on_open_replaces_old_connection" Broker.onOpenReplacesOldConnection,
    g "close_of_evicted_connection_keeps_new_registration" Broker.closeOfEvictedConnectionKeepsNewRegistration,
    g "same_socket_reopened_under_new_id_drops_old_mapping" Broker.sameSocketReopenedUnderNewIdDropsOldMapping,
    g "snapshots_mirror_each_other" Broker.snapshotsMirrorEachOther,
    g "add_to_topic_tracks_membership" Broker.addToTopicTracksMembership,
    g "add_to_topic_is_idempotent" Broker.addToTopicIsIdempotent,
    g "remove_from_topic_removes_cleanly" Broker.removeFromTopicRemovesCleanly,
    g "remove_last_member_drops_topic_key" Broker.removeLastMemberDropsTopicKey,
    g "remove_keeps_topic_while_other_members_remain" Broker.removeKeepsTopicWhileOtherMembersRemain,
    g "remove_last_topic_drops_member_key" Broker.removeLastTopicDropsMemberKey,
    g "remove_keeps_member_with_other_topics" Broker.removeKeepsMemberWithOtherTopics,
    g "remove_from_topic_twice_is_noop" Broker.removeFromTopicTwiceIsNoop,
    g "unknown_lookups_return_empty_sets" Broker.unknownLookupsReturnEmptySets,
    g "membership_survives_connection_churn" Broker.membershipSurvivesConnectionChurn,
    g "add_to_topic_logs_current_state" Broker.addToTopicLogsCurrentState,
    g "remove_from_topic_logs_current_state" Broker.removeFromTopicLogsCurrentState,
    g "membership_changes_report_counts_of_their_own_mutation"
      Broker.membershipChangesReportCountsOfTheirOwnMutation,
    g "broadcast_sends_if_client_online" Broker.broadcastSendsIfClientOnline,
    g "broadcast_only_reaches_available_connected_members" Broker.broadcastOnlyReachesAvailableConnectedMembers,
    g "broadcast_to_unknown_topic_warns_and_sends_nothing" Broker.broadcastToUnknownTopicWarnsAndSendsNothing,
    g "failed_send_does_not_stop_other_members" Broker.failedSendDoesNotStopOtherMembers,
    g "broadcast_uses_camel_case_and_logs_send" Broker.broadcastUsesCamelCaseAndLogsSend,
    g "serialization_failure_propagates_without_touching_state"
      Broker.serializationFailurePropagatesWithoutTouchingState,
    g "camel_case_conversion" Broker.camelCaseConversion,
    g "camel_case_json_leaves_map_keys_untouched" Broker.camelCaseJsonLeavesMapKeysUntouched,
    g "camel_case_json_keeps_nested_objects_as_serialized" Broker.camelCaseJsonKeepsNestedObjectsAsSerialized,
    g "camel_case_json_rejects_colliding_fields" Broker.camelCaseJsonRejectsCollidingFields,
    g "broadcast_of_colliding_fields_sends_nothing" Broker.broadcastOfCollidingFieldsSendsNothing,
    g "concurrent_adds_are_not_lost" Broker.concurrentAddsAreNotLost,
    g "concurrent_tasks_keep_maps_mirrored" Broker.concurrentTasksKeepMapsMirrored,
    g "subscription_service_applies_each_topic" Broker.subscriptionServiceAppliesEachTopic,
    g "subscription_service_empty_list_is_noop" Broker.subscriptionServiceEmptyListIsNoop,
    g "dashboard_broadcasts_live_data_window" Dashboard.dashboardBroadcastsLiveDataWindow,
    g "dashboard_clear_and_interval_events" Dashboard.dashboardClearAndIntervalEvents,
    g "dashboard_without_subscribers_still_records" Dashboard.dashboardWithoutSubscribersStillRecords,
    g "threshold_states_at_each_boundary" Dashboard.thresholdStatesAtEachBoundary,
    g "metric_value_reads_each_metric" Dashboard.metricValueReadsEachMetric,
    g "update_thresholds_broadcasts_evaluations_of_latest_reading"
      Dashboard.updateThresholdsBroadcastsEvaluationsOfLatestReading,
    g "update_thresholds_replaces_by_metric_and_keeps_others" Dashboard.updateThresholdsReplacesByMetricAndKeepsOthers,
    g "update_thresholds_without_readings_sends_no_evaluations"
      Dashboard.updateThresholdsWithoutReadingsSendsNoEvaluations,
    g "update_thresholds_rejects_unknown_metric_and_stores_nothing"
      Dashboard.updateThresholdsRejectsUnknownMetricAndStoresNothing ]

/-- The scenarios of single connections. -/
def connectionScenarios : List Scenario :=
  let g := fun (n : String) (b : Bool) => Scenario.pure ("client::tests::test_" ++ n) b
  [ g "connection_new_has_unique_id" Transport.connectionNewHasUniqueId,
    g "send_enqueues_text_frame" Transport.sendEnqueuesTextFrame,
    g "unavailable_after_mark_closed" Transport.unavailableAfterMarkClosed,
    g "send_to_dropped_receiver_fails" Transport.sendToDroppedReceiverFails ]

/-- The scenarios of settings. -/
def settingsScenarios : List Scenario :=
  let g := fun (n : String) (b : Bool) => Scenario.pure ("config::tests::" ++ n) b
  [ g "test_default_settings" Transport.defaultSettings,
    g "load_config_without_sources_uses_defaults" Transport.loadConfigWithoutSourcesUsesDefaults,
    g "load_config_from_file_overrides_defaults" Transport.loadConfigFromFileOverridesDefaults,
    g "env_overrides_file" Transport.envOverridesFile,
    g "invalid_env_value_is_an_error" Transport.invalidEnvValueIsAnError ]

/-- The scenarios of the message exchange, the last three over sockets. -/
def exchangeScenarios : List Scenario :=
  let name := fun (n : String) => "transport::tests::test_" ++ n
  let g := fun (n : String) (b : Bool) => Scenario.pure (name n) b
  [ g "client_id_from_query" Transport.clientIdFromQueryCases,
    g "client_id_from_query_is_percent_decoded" Transport.clientIdFromQueryIsPercentDecoded,
    g "client_message_wire_format" Transport.clientMessageWireFormat,
    g "handle_subscribe_and_unsubscribe" Transport.handleSubscribeAndUnsubscribe,
    g "handle_invalid_message_replies_error" Transport.handleInvalidMessageRepliesError,
    g "handle_measurement_records_reading" Transport.handleMeasurementRecordsReading,
    g "handle_update_thresholds_stores_and_rejects_unknown_metric"
      Transport.handleUpdateThresholdsStoresAndRejectsUnknownMetric,
    ⟨name "dashboard_receives_live_data_end_to_end", Transport.dashboardReceivesLiveDataEndToEnd⟩,
    ⟨name "percent_encoded_id_is_registered_decoded_end_to_end",
      Transport.percentEncodedIdIsRegisteredDecodedEndToEnd⟩,
    ⟨name "subscription_survives_reconnect_end_to_end", Transport.subscriptionSurvivesReconnectEndToEnd⟩ ]

/-- The scenarios of logging. -/
def loggingScenarios : List Scenario :=
  [ Scenario.pure "utils::logging::tests::parse_level_is_case_insensitive_with_info_fallback"
      Transport.parseLevelIsCaseInsensitiveWithInfoFallback,
    Scenario.pure "utils::tests::logging_init_accepts_levels" Transport.loggingInitAcceptsLevels ]

/-- Every scenario. -/
def catalog : List Scenario :=
  brokerScenarios ++ connectionScenarios ++ settingsScenarios ++ exchangeScenarios ++ loggingScenarios

/-- How a selection of scenarios came out. -/
structure Outcome where
  passed : Nat
  failed : Nat
  deriving DecidableEq, Repr

/-- The selection passes: none of its scenarios failed. -/
def Outcome.success (o : Outcome) : Bool := o.failed == 0

/-- Runs the scenarios named exactly `name` in the network `net`. -/
def runNamed (net : Net.Network) (name : String) : Outcome :=
  let results := (catalog.filter (·.name == name)).map (·.holds net)
  ⟨results.count true, results.count false⟩

end TopicHub.Suite
