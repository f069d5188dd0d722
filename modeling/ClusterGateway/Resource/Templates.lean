/-!
# Starting objects

For each kind a complete object to edit and hand back. A text is given by its lines.
-/

namespace ClusterGateway.Templates

def ofLines (lines : List String) : String :=
  String.join (lines.map (· ++ "\n"))

def namespaceObject : String := ofLines [
  "apiVersion: v1",
  "kind: Namespace",
  "metadata:",
  "  name: my-namespace"]

def podObject : String := ofLines [
  "apiVersion: v1",
  "kind: Pod",
  "metadata:",
  "  name: my-pod",
  "  namespace: default",
  "  labels:",
  "    app: my-app",
  "spec:",
  "  containers:",
  "    - name: nginx",
  "      image: nginx:1.25",
  "      ports:",
  "        - containerPort: 80"]

def deploymentObject : String := ofLines [
  "apiVersion: apps/v1",
  "kind: Deployment",
  "metadata:",
  "  name: my-deployment",
  "  namespace: default",
  "spec:",
  "  replicas: 2",
  "  selector:",
  "    matchLabels:",
  "      app: my-app",
  "  template:",
  "    metadata:",
  "      labels:",
  "        app: my-app",
  "    spec:",
  "      containers:",
  "        - name: nginx",
  "          image: nginx:1.25",
  "          ports:",
  "            - containerPort: 80"]

def serviceObject : String := ofLines [
  "apiVersion: v1",
  "kind: Service",
  "metadata:",
  "  name: my-service",
  "  namespace: default",
  "spec:",
  "  selector:",
  "    app: my-app",
  "  ports:",
  "    - protocol: TCP",
  "      port: 80",
  "      targetPort: 80"]

def ingressObject : String := ofLines [
  "apiVersion: networking.k8s.io/v1",
  "kind: Ingress",
  "metadata:",
  "  name: my-ingress",
  "  namespace: default",
  "spec:",
  "  rules:",
  "    - host: example.com",
  "      http:",
  "        paths:",
  "          - path: /",
  "            pathType: Prefix",
  "            backend:",
  "              service:",
  "                name: my-service",
  "                port:",
  "                  number: 80"]

def configmapObject : String := ofLines [
  "apiVersion: v1",
  "kind: ConfigMap",
  "metadata:",
  "  name: my-configmap",
  "  namespace: default",
  "data:",
  "  key1: value1",
  "  key2: value2"]

def secretObject : String := ofLines [
  "apiVersion: v1",
  "kind: Secret",
  "metadata:",
  "  name: my-secret",
  "  namespace: default",
  "type: Opaque",
  "stringData:",
  "  username: admin",
  "  password: change-me"]

def nodeObject : String := ofLines [
  "apiVersion: v1",
  "kind: Node",
  "metadata:",
  "  name: my-node",
  "  labels:",
  "    kubernetes.io/hostname: my-node"]

def daemonSetObject : String := ofLines [
  "apiVersion: apps/v1",
  "kind: DaemonSet",
  "metadata:",
  "  name: my-daemonset",
  "  namespace: default",
  "spec:",
  "  selector:",
  "    matchLabels:",
  "      app: my-agent",
  "  template:",
  "    metadata:",
  "      labels:",
  "        app: my-agent",
  "    spec:",
  "      containers:",
  "        - name: agent",
  "          image: busybox:1.36",
  "          command: [\"sh\", \"-c\", \"sleep infinity\"]"]

def statefulSetObject : String := ofLines [
  "apiVersion: apps/v1",
  "kind: StatefulSet",
  "metadata:",
  "  name: my-statefulset",
  "  namespace: default",
  "spec:",
  "  serviceName: my-service",
  "  replicas: 1",
  "  selector:",
  "    matchLabels:",
  "      app: my-db",
  "  template:",
  "    metadata:",
  "      labels:",
  "        app: my-db",
  "    spec:",
  "      containers:",
  "        - name: db",
  "          image: postgres:16",
  "  volumeClaimTemplates:",
  "    - metadata:",
  "        name: data",
  "      spec:",
  "        accessModes: [\"ReadWriteOnce\"]",
  "        resources:",
  "          requests:",
  "            storage: 1Gi"]

def jobObject : String := ofLines [
  "apiVersion: batch/v1",
  "kind: Job",
  "metadata:",
  "  name: my-job",
  "  namespace: default",
  "spec:",
  "  backoffLimit: 4",
  "  template:",
  "    spec:",
  "      restartPolicy: Never",
  "      containers:",
  "        - name: pi",
  "          image: perl:5.34",
  "          command: [\"perl\", \"-Mbignum=bpi\", \"-wle\", \"print bpi(200)\"]"]

def cronJobObject : String := ofLines [
  "apiVersion: batch/v1",
  "kind: CronJob",
  "metadata:",
  "  name: my-cronjob",
  "  namespace: default",
  "spec:",
  "  schedule: \"*/5 * * * *\"",
  "  jobTemplate:",
  "    spec:",
  "      template:",
  "        spec:",
  "          restartPolicy: OnFailure",
  "          containers:",
  "            - name: hello",
  "              image: busybox:1.36",
  "              command: [\"sh\", \"-c\", \"date; echo hello\"]"]

def replicaSetObject : String := ofLines [
  "apiVersion: apps/v1",
  "kind: ReplicaSet",
  "metadata:",
  "  name: my-replicaset",
  "  namespace: default",
  "spec:",
  "  replicas: 2",
  "  selector:",
  "    matchLabels:",
  "      app: my-app",
  "  template:",
  "    metadata:",
  "      labels:",
  "        app: my-app",
  "    spec:",
  "      containers:",
  "        - name: nginx",
  "          image: nginx:1.25"]

def persistentVolumeObject : String := ofLines [
  "apiVersion: v1",
  "kind: PersistentVolume",
  "metadata:",
  "  name: my-pv",
  "spec:",
  "  capacity:",
  "    storage: 5Gi",
  "  accessModes:",
  "    - ReadWriteOnce",
  "  persistentVolumeReclaimPolicy: Retain",
  "  storageClassName: standard",
  "  hostPath:",
  "    path: /mnt/data"]

def persistentVolumeClaimObject : String := ofLines [
  "apiVersion: v1",
  "kind: PersistentVolumeClaim",
  "metadata:",
  "  name: my-pvc",
  "  namespace: default",
  "spec:",
  "  accessModes:",
  "    - ReadWriteOnce",
  "  storageClassName: standard",
  "  resources:",
  "    requests:",
  "      storage: 1Gi"]

def horizontalPodAutoscalerObject : String := ofLines [
  "apiVersion: autoscaling/v2",
  "kind: HorizontalPodAutoscaler",
  "metadata:",
  "  name: my-hpa",
  "  namespace: default",
  "spec:",
  "  scaleTargetRef:",
  "    apiVersion: apps/v1",
  "    kind: Deployment",
  "    name: my-deployment",
  "  minReplicas: 1",
  "  maxReplicas: 5",
  "  metrics:",
  "    - type: Resource",
  "      resource:",
  "        name: cpu",
  "        target:",
  "          type: Utilization",
  "          averageUtilization: 80"]

def eventObject : String := ofLines [
  "apiVersion: v1",
  "kind: Event",
  "metadata:",
  "  name: my-event",
  "  namespace: default",
  "involvedObject:",
  "  kind: Pod",
  "  name: my-pod",
  "  namespace: default",
  "reason: Started",
  "message: Started container nginx",
  "type: Normal"]

def certificateObject : String := ofLines [
  "apiVersion: cert-manager.io/v1",
  "kind: Certificate",
  "metadata:",
  "  name: my-certificate",
  "  namespace: default",
  "spec:",
  "  secretName: my-certificate-tls",
  "  dnsNames:",
  "    - example.com",
  "  issuerRef:",
  "    name: my-issuer",
  "    kind: Issuer"]

def certificateRequestObject : String := ofLines [
  "apiVersion: cert-manager.io/v1",
  "kind: CertificateRequest",
  "metadata:",
  "  name: my-certificate-request",
  "  namespace: default",
  "spec:",
  "  request: <base64-encoded-csr>",
  "  issuerRef:",
  "    name: my-issuer",
  "    kind: Issuer",
  "  usages:",
  "    - digital signature",
  "    - key encipherment"]

def orderObject : String := ofLines [
  "apiVersion: acme.cert-manager.io/v1",
  "kind: Order",
  "metadata:",
  "  name: my-order",
  "  namespace: default",
  "spec:",
  "  request: <base64-encoded-csr>",
  "  issuerRef:",
  "    name: letsencrypt-staging",
  "    kind: Issuer",
  "  dnsNames:",
  "    - example.com"]

def issuerObject : String := ofLines [
  "apiVersion: cert-manager.io/v1",
  "kind: Issuer",
  "metadata:",
  "  name: my-issuer",
  "  namespace: default",
  "spec:",
  "  selfSigned: \x7b\x7d"]

def clusterIssuerObject : String := ofLines [
  "apiVersion: cert-manager.io/v1",
  "kind: ClusterIssuer",
  "metadata:",
  "  name: letsencrypt-staging",
  "spec:",
  "  acme:",
  "    server: https://acme-staging-v02.api.letsencrypt.org/directory",
  "    email: admin@example.com",
  "    privateKeySecretRef:",
  "      name: letsencrypt-staging",
  "    solvers:",
  "      - http01:",
  "          ingress:",
  "            ingressClassName: nginx"]

def serviceAccountObject : String := ofLines [
  "apiVersion: v1",
  "kind: ServiceAccount",
  "metadata:",
  "  name: my-service-account",
  "  namespace: default"]

def roleObject : String := ofLines [
  "apiVersion: rbac.authorization.k8s.io/v1",
  "kind: Role",
  "metadata:",
  "  name: pod-reader",
  "  namespace: default",
  "rules:",
  "  - apiGroups: [\"\"]",
  "    resources: [\"pods\"]",
  "    verbs: [\"get\", \"watch\", \"list\"]"]

def roleBindingObject : String := ofLines [
  "apiVersion: rbac.authorization.k8s.io/v1",
  "kind: RoleBinding",
  "metadata:",
  "  name: read-pods",
  "  namespace: default",
  "subjects:",
  "  - kind: ServiceAccount",
  "    name: my-service-account",
  "    namespace: default",
  "roleRef:",
  "  kind: Role",
  "  name: pod-reader",
  "  apiGroup: rbac.authorization.k8s.io"]

def clusterRoleObject : String := ofLines [
  "apiVersion: rbac.authorization.k8s.io/v1",
  "kind: ClusterRole",
  "metadata:",
  "  name: secret-reader",
  "rules:",
  "  - apiGroups: [\"\"]",
  "    resources: [\"secrets\"]",
  "    verbs: [\"get\", \"watch\", \"list\"]"]

def clusterRoleBindingObject : String := ofLines [
  "apiVersion: rbac.authorization.k8s.io/v1",
  "kind: ClusterRoleBinding",
  "metadata:",
  "  name: read-secrets-global",
  "subjects:",
  "  - kind: Group",
  "    name: manager",
  "    apiGroup: rbac.authorization.k8s.io",
  "roleRef:",
  "  kind: ClusterRole",
  "  name: secret-reader",
  "  apiGroup: rbac.authorization.k8s.io"]

def volumeAttachmentObject : String := ofLines [
  "apiVersion: storage.k8s.io/v1",
  "kind: VolumeAttachment",
  "metadata:",
  "  name: my-volume-attachment",
  "spec:",
  "  attacher: csi.example.com",
  "  nodeName: my-node",
  "  source:",
  "    persistentVolumeName: my-pv"]

def networkPolicyObject : String := ofLines [
  "apiVersion: networking.k8s.io/v1",
  "kind: NetworkPolicy",
  "metadata:",
  "  name: allow-frontend",
  "  namespace: default",
  "spec:",
  "  podSelector:",
  "    matchLabels:",
  "      app: backend",
  "  policyTypes:",
  "    - Ingress",
  "  ingress:",
  "    - from:",
  "        - podSelector:",
  "            matchLabels:",
  "              app: frontend",
  "      ports:",
  "        - protocol: TCP",
  "          port: 8080"]

def storageClassObject : String := ofLines [
  "apiVersion: storage.k8s.io/v1",
  "kind: StorageClass",
  "metadata:",
  "  name: fast",
  "provisioner: kubernetes.io/no-provisioner",
  "reclaimPolicy: Retain",
  "volumeBindingMode: WaitForFirstConsumer"]

def customResourceDefinitionObject : String := ofLines [
  "apiVersion: apiextensions.k8s.io/v1",
  "kind: CustomResourceDefinition",
  "metadata:",
  "  name: crontabs.stable.example.com",
  "spec:",
  "  group: stable.example.com",
  "  scope: Namespaced",
  "  names:",
  "    plural: crontabs",
  "    singular: crontab",
  "    kind: CronTab",
  "    shortNames: [\"ct\"]",
  "  versions:",
  "    - name: v1",
  "      served: true",
  "      storage: true",
  "      schema:",
  "        openAPIV3Schema:",
  "          type: object",
  "          properties:",
  "            spec:",
  "              type: object",
  "              properties:",
  "                cronSpec:",
  "                  type: string",
  "                image:",
  "                  type: string"]

def endpointsObject : String := ofLines [
  "apiVersion: v1",
  "kind: Endpoints",
  "metadata:",
  "  name: my-service",
  "  namespace: default",
  "subsets:",
  "  - addresses:",
  "      - ip: 192.0.2.42",
  "    ports:",
  "      - port: 9376"]

def leaseObject : String := ofLines [
  "apiVersion: coordination.k8s.io/v1",
  "kind: Lease",
  "metadata:",
  "  name: my-lease",
  "  namespace: default",
  "spec:",
  "  holderIdentity: my-controller",
  "  leaseDurationSeconds: 15"]

def priorityClassObject : String := ofLines [
  "apiVersion: scheduling.k8s.io/v1",
  "kind: PriorityClass",
  "metadata:",
  "  name: high-priority",
  "value: 1000000",
  "globalDefault: false",
  "description: Use for critical service pods only."]

def volumeSnapshotObject : String := ofLines [
  "apiVersion: snapshot.storage.k8s.io/v1",
  "kind: VolumeSnapshot",
  "metadata:",
  "  name: snapshot-test",
  "  namespace: default",
  "spec:",
  "  volumeSnapshotClassName: snapshot-class",
  "  source:",
  "    persistentVolumeClaimName: pvc-test"]

def resourceQuotaObject : String := ofLines [
  "apiVersion: v1",
  "kind: ResourceQuota",
  "metadata:",
  "  name: compute-resources",
  "  namespace: default",
  "spec:",
  "  hard:",
  "    pods: \"10\"",
  "    requests.cpu: \"1\"",
  "    requests.memory: 1Gi",
  "    limits.cpu: \"2\"",
  "    limits.memory: 2Gi"]

end ClusterGateway.Templates
