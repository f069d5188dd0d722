import ClusterGateway.Resource.Basic
import ClusterGateway.Resource.Templates

/-!
# The kinds that are served

A further kind is a further row.
-/

namespace ClusterGateway

def servedKinds : List ResourceKind := [
  { name := "namespace"
    aliases := ["ns"]
    api := ⟨"", "v1", "Namespace", "namespaces"⟩
    scope := .cluster
    policy := Policy.split .user .user |>.without .update |>.allow .delete .admin
    template := Templates.namespaceObject
    description := "A Namespace partitions a cluster into virtual sub-clusters. Names of resources must be " ++
      "unique within a namespace, and quotas and policies are usually applied per namespace." },
  { name := "pod"
    aliases := ["po"]
    api := ⟨"", "v1", "Pod", "pods"⟩
    scope := .namespaced
    policy := Policy.uniform .user
    template := Templates.podObject
    description := "A Pod is the smallest deployable unit: one or more containers sharing network and " ++
      "storage. This example runs a single nginx container exposing port 80." },
  { name := "deployment"
    aliases := ["deploy"]
    api := ⟨"apps", "v1", "Deployment", "deployments"⟩
    scope := .namespaced
    policy := Policy.uniform .user
    template := Templates.deploymentObject
    description := "A Deployment declares the desired state of a set of identical pods and rolls changes out " ++
      "gradually. This example keeps two nginx replicas running." },
  { name := "service"
    aliases := ["svc"]
    api := ⟨"", "v1", "Service", "services"⟩
    scope := .namespaced
    policy := Policy.uniform .user
    template := Templates.serviceObject
    description := "A Service exposes a set of pods behind a stable virtual IP and DNS name. This example " ++
      "routes TCP port 80 to pods labelled app=my-app." },
  { name := "ingress"
    aliases := ["ing"]
    api := ⟨"networking.k8s.io", "v1", "Ingress", "ingresses"⟩
    scope := .namespaced
    policy := Policy.uniform .user
    template := Templates.ingressObject
    description := "An Ingress routes external HTTP(S) traffic to services based on host and path. This " ++
      "example sends all traffic for example.com to my-service." },
  { name := "configmap"
    aliases := ["cm", "config_map"]
    api := ⟨"", "v1", "ConfigMap", "configmaps"⟩
    scope := .namespaced
    policy := Policy.uniform .user
    template := Templates.configmapObject
    description := "A ConfigMap stores non-confidential key-value configuration that pods consume as " ++
      "environment variables, arguments or files." },
  { name := "secret"
    aliases := []
    api := ⟨"", "v1", "Secret", "secrets"⟩
    scope := .namespaced
    policy := Policy.uniform .admin
    template := Templates.secretObject
    description := "A Secret holds a small amount of sensitive data such as passwords or tokens. Values " ++
      "under stringData are encoded by the API server on write." },
  { name := "node"
    aliases := ["no"]
    api := ⟨"", "v1", "Node", "nodes"⟩
    scope := .cluster
    policy := Policy.readOnly .user
    template := Templates.nodeObject
    description := "A Node is a worker machine registered with the cluster. Nodes are registered by the " ++
      "kubelet and can only be inspected here." },
  { name := "daemon_set"
    aliases := ["ds"]
    api := ⟨"apps", "v1", "DaemonSet", "daemonsets"⟩
    scope := .namespaced
    policy := Policy.uniform .user
    template := Templates.daemonSetObject
    description := "A DaemonSet runs a copy of a pod on every (or every selected) node, typically for log " ++
      "shippers, monitoring agents or network plugins." },
  { name := "stateful_set"
    aliases := ["sts"]
    api := ⟨"apps", "v1", "StatefulSet", "statefulsets"⟩
    scope := .namespaced
    policy := Policy.uniform .user
    template := Templates.statefulSetObject
    description := "A StatefulSet manages pods with stable identities and per-pod persistent storage. This " ++
      "example runs one postgres replica with a 1Gi volume claim." },
  { name := "job"
    aliases := []
    api := ⟨"batch", "v1", "Job", "jobs"⟩
    scope := .namespaced
    policy := Policy.uniform .user
    template := Templates.jobObject
    description := "A Job runs pods until a specified number of them complete successfully. This example " ++
      "computes pi to 200 places and retries up to four times." },
  { name := "cron_job"
    aliases := ["cj"]
    api := ⟨"batch", "v1", "CronJob", "cronjobs"⟩
    scope := .namespaced
    policy := Policy.uniform .user
    template := Templates.cronJobObject
    description := "A CronJob creates Jobs on a repeating schedule written in cron format. This example " ++
      "prints the date every five minutes." },
  { name := "replica_set"
    aliases := ["rs"]
    api := ⟨"apps", "v1", "ReplicaSet", "replicasets"⟩
    scope := .namespaced
    policy := Policy.uniform .user
    template := Templates.replicaSetObject
    description := "A ReplicaSet keeps a fixed number of pod replicas running. It is usually managed through " ++
      "a Deployment rather than directly." },
  { name := "persistent_volume"
    aliases := ["pv"]
    api := ⟨"", "v1", "PersistentVolume", "persistentvolumes"⟩
    scope := .cluster
    policy := Policy.uniform .admin
    template := Templates.persistentVolumeObject
    description := "A PersistentVolume is a piece of cluster storage provisioned by an administrator or a " ++
      "storage class. This example exposes a 5Gi host path." },
  { name := "persistent_volume_claim"
    aliases := ["pvc"]
    api := ⟨"", "v1", "PersistentVolumeClaim", "persistentvolumeclaims"⟩
    scope := .namespaced
    policy := Policy.split .user .admin
    template := Templates.persistentVolumeClaimObject
    description := "A PersistentVolumeClaim requests storage of a given size and access mode. The cluster " ++
      "binds it to a matching PersistentVolume." },
  { name := "horizontal_pod_autoscaler"
    aliases := ["hpa"]
    api := ⟨"autoscaling", "v2", "HorizontalPodAutoscaler", "horizontalpodautoscalers"⟩
    scope := .namespaced
    policy := Policy.split .user .admin
    template := Templates.horizontalPodAutoscalerObject
    description := "A HorizontalPodAutoscaler scales a workload's replica count based on observed metrics. " ++
      "This example keeps average CPU utilization near 80%." },
  { name := "event"
    aliases := ["ev"]
    api := ⟨"", "v1", "Event", "events"⟩
    scope := .namespaced
    policy := Policy.readOnly .user
    template := Templates.eventObject
    description := "An Event records something that happened to an object, such as a container start or a " ++
      "scheduling failure. Events are emitted by cluster components." },
  { name := "certificate"
    aliases := ["cert"]
    api := ⟨"cert-manager.io", "v1", "Certificate", "certificates"⟩
    scope := .namespaced
    policy := Policy.uniform .user
    template := Templates.certificateObject
    description := "A cert-manager Certificate describes a desired X.509 certificate. cert-manager obtains " ++
      "it from the referenced issuer and stores it in the named secret." },
  { name := "certificate_request"
    aliases := ["cr"]
    api := ⟨"cert-manager.io", "v1", "CertificateRequest", "certificaterequests"⟩
    scope := .namespaced
    policy := Policy.uniform .user
    template := Templates.certificateRequestObject
    description := "A cert-manager CertificateRequest submits a single PEM-encoded CSR to an issuer. " ++
      "Certificates create these automatically." },
  { name := "order"
    aliases := []
    api := ⟨"acme.cert-manager.io", "v1", "Order", "orders"⟩
    scope := .namespaced
    policy := Policy.uniform .user
    template := Templates.orderObject
    description := "An ACME Order tracks a certificate order against an ACME server such as Let's Encrypt, " ++
      "including its pending challenges." },
  { name := "issuer"
    aliases := []
    api := ⟨"cert-manager.io", "v1", "Issuer", "issuers"⟩
    scope := .namespaced
    policy := Policy.uniform .user
    template := Templates.issuerObject
    description := "A cert-manager Issuer signs certificates for a single namespace. This example issues " ++
      "self-signed certificates." },
  { name := "cluster_issuer"
    aliases := []
    api := ⟨"cert-manager.io", "v1", "ClusterIssuer", "clusterissuers"⟩
    scope := .cluster
    policy := Policy.uniform .admin
    template := Templates.clusterIssuerObject
    description := "A cert-manager ClusterIssuer signs certificates for every namespace. This example uses " ++
      "the Let's Encrypt staging ACME endpoint with HTTP-01 challenges." },
  { name := "service_account"
    aliases := ["sa"]
    api := ⟨"", "v1", "ServiceAccount", "serviceaccounts"⟩
    scope := .namespaced
    policy := Policy.uniform .admin
    template := Templates.serviceAccountObject
    description := "A ServiceAccount provides an identity for processes running in pods, used when they talk " ++
      "to the API server." },
  { name := "role"
    aliases := []
    api := ⟨"rbac.authorization.k8s.io", "v1", "Role", "roles"⟩
    scope := .namespaced
    policy := Policy.split .user .admin
    template := Templates.roleObject
    description := "A Role grants a set of permissions within one namespace. This example allows reading " ++
      "pods." },
  { name := "role_binding"
    aliases := []
    api := ⟨"rbac.authorization.k8s.io", "v1", "RoleBinding", "rolebindings"⟩
    scope := .namespaced
    policy := Policy.split .user .admin
    template := Templates.roleBindingObject
    description := "A RoleBinding grants the permissions of a Role to users, groups or service accounts " ++
      "within a namespace." },
  { name := "cluster_role"
    aliases := []
    api := ⟨"rbac.authorization.k8s.io", "v1", "ClusterRole", "clusterroles"⟩
    scope := .cluster
    policy := Policy.uniform .admin
    template := Templates.clusterRoleObject
    description := "A ClusterRole grants permissions cluster-wide or on cluster-scoped resources. This " ++
      "example allows reading secrets in every namespace." },
  { name := "cluster_role_binding"
    aliases := []
    api := ⟨"rbac.authorization.k8s.io", "v1", "ClusterRoleBinding", "clusterrolebindings"⟩
    scope := .cluster
    policy := Policy.uniform .admin
    template := Templates.clusterRoleBindingObject
    description := "A ClusterRoleBinding grants the permissions of a ClusterRole across the whole cluster." },
  { name := "volume_attachment"
    aliases := []
    api := ⟨"storage.k8s.io", "v1", "VolumeAttachment", "volumeattachments"⟩
    scope := .cluster
    policy := Policy.uniform .admin
    template := Templates.volumeAttachmentObject
    description := "A VolumeAttachment captures the intent to attach a volume to a node. It is normally " ++
      "created by the attach/detach controller for CSI drivers." },
  { name := "network_policy"
    aliases := ["netpol"]
    api := ⟨"networking.k8s.io", "v1", "NetworkPolicy", "networkpolicies"⟩
    scope := .namespaced
    policy := Policy.split .user .admin
    template := Templates.networkPolicyObject
    description := "A NetworkPolicy controls which pods may talk to each other. This example only lets " ++
      "frontend pods reach backend pods on port 8080." },
  { name := "storage_class"
    aliases := ["sc"]
    api := ⟨"storage.k8s.io", "v1", "StorageClass", "storageclasses"⟩
    scope := .cluster
    policy := Policy.split .user .admin
    template := Templates.storageClassObject
    description := "A StorageClass describes a class of storage and the provisioner that creates volumes for " ++
      "it." },
  { name := "custom_resource_definition"
    aliases := ["crd", "crds"]
    api := ⟨"apiextensions.k8s.io", "v1", "CustomResourceDefinition", "customresourcedefinitions"⟩
    scope := .cluster
    policy := Policy.uniform .admin
    template := Templates.customResourceDefinitionObject
    description := "A CustomResourceDefinition extends the API with a new resource type. This example " ++
      "registers a namespaced CronTab kind." },
  { name := "endpoints"
    aliases := ["ep", "endpoint"]
    api := ⟨"", "v1", "Endpoints", "endpoints"⟩
    scope := .namespaced
    policy := Policy.uniform .user
    template := Templates.endpointsObject
    description := "An Endpoints object lists the network addresses backing a service. It is maintained " ++
      "automatically for services with selectors." },
  { name := "lease"
    aliases := []
    api := ⟨"coordination.k8s.io", "v1", "Lease", "leases"⟩
    scope := .namespaced
    policy := Policy.uniform .user
    template := Templates.leaseObject
    description := "A Lease is a lightweight lock used for leader election and node heartbeats." },
  { name := "priority_class"
    aliases := ["pc"]
    api := ⟨"scheduling.k8s.io", "v1", "PriorityClass", "priorityclasses"⟩
    scope := .cluster
    policy := Policy.uniform .admin
    template := Templates.priorityClassObject
    description := "A PriorityClass maps a name to a scheduling priority. Pods referencing a higher priority " ++
      "can preempt lower-priority pods." },
  { name := "volume_snapshot"
    aliases := ["vs"]
    api := ⟨"snapshot.storage.k8s.io", "v1", "VolumeSnapshot", "volumesnapshots"⟩
    scope := .namespaced
    policy := Policy.uniform .user |>.without .update
    template := Templates.volumeSnapshotObject
    description := "A VolumeSnapshot is a point-in-time copy of a PersistentVolumeClaim. This example " ++
      "snapshots pvc-test using the class snapshot-class, which is defined by your storage " ++
      "provider." },
  { name := "resource_quota"
    aliases := ["quota"]
    api := ⟨"", "v1", "ResourceQuota", "resourcequotas"⟩
    scope := .namespaced
    policy := Policy.uniform .admin
    template := Templates.resourceQuotaObject
    description := "A ResourceQuota limits aggregate resource consumption per namespace. This example caps " ++
      "the namespace at 10 pods, 1 CPU and 1Gi requested, 2 CPUs and 2Gi limits." }]

end ClusterGateway
